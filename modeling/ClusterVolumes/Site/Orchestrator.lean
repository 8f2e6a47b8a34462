import ClusterVolumes.Failure
import ClusterVolumes.Orchestrator.Request
import ClusterVolumes.Site.Keyed

/-!
# An orchestrator as it answers

The state of an orchestrator that does what it is asked. `OrchestratorState.answer` is how each
request is answered and what it changes; `OrchestratorState.bind` binds a new claim to the volume
that it names, if no claim has that volume.
-/

namespace ClusterVolumes.Site

open Orchestrator

/-- When a new claim is bound: at once, when it is looked at for the given time, or never. -/
inductive BindRule
  | atOnce
  | onLook (times : Nat)
  | never
  deriving DecidableEq, Repr

/-- The state of an orchestrator. A deleted pod that `lingers` is still there for a number of
listings. -/
structure OrchestratorState where
  nodes : Keyed String Node := Keyed.empty
  nodeDrivers : List NodeDrivers := []
  pods : List Pod := []
  volumes : Keyed String VolumeRecord := Keyed.empty
  claims : Keyed (String × String) Claim := Keyed.empty
  denied : List (String × String) := []
  lingers : Keyed (String × String) Nat := Keyed.empty
  recreates : Bool := false
  binding : BindRule := .atOnce
  leaving : Keyed (String × String) Nat := Keyed.empty
  unbound : Keyed (String × String) Nat := Keyed.empty
  claimsMade : Nat := 0

namespace OrchestratorState

/-- The namespace and name of a pod. -/
def podKey (p : Pod) : String × String :=
  (p.metadata.space.getD "", p.name)

/-- Keep a pod, in place of one of the same namespace and name. -/
def putPod (o : OrchestratorState) (p : Pod) : OrchestratorState :=
  { o with pods := o.pods.filter (fun q => podKey q ≠ podKey p) ++ [p] }

/-- The pods of a namespace by name. -/
def podsOf (o : OrchestratorState) (space : String) : List Pod :=
  (o.pods.filter fun p => p.metadata.space.getD "" = space).mergeSort fun a b =>
    decide (a.name ≤ b.name)

/-- List the pods of a namespace. A pod that is leaving is listed and then comes one listing closer
to being gone. -/
def listPods (o : OrchestratorState) (space : String) : List Pod × OrchestratorState :=
  let listed := o.podsOf space
  let here (key : String × String) : Bool := key.1 = space
  (listed,
    { o with
      pods := o.pods.filter fun p => !(here (podKey p) && o.leaving (podKey p) = some 1)
      leaving := fun key =>
        if here key then (o.leaving key).bind fun n => if n ≤ 1 then none else some (n - 1)
          else o.leaving key })

/-- A pod as it is made anew: on no node yet. -/
def fresh (p : Pod) : Pod :=
  { p with
    spec := p.spec.map fun s => { s with nodeName := none }
    status := some { (p.status.getD {}) with phase := some "Pending" } }

/-- Delete a pod. -/
def deletePod (o : OrchestratorState) (space name : String) : OrchestratorState :=
  match o.lingers (space, name) with
  | some (n + 1) => { o with leaving := o.leaving.put (space, name) (some (n + 1)) }
  | _ =>
    match o.pods.find? fun p => podKey p = (space, name) with
    | none => o
    | some p =>
      let o := { o with pods := o.pods.filter fun q => podKey q ≠ (space, name) }
      if o.recreates then o.putPod (fresh p) else o

/-- Bind a claim to the volume that it names, if there is one that no claim has. -/
def bind (o : OrchestratorState) (space name : String) : OrchestratorState :=
  match o.claims (space, name) with
  | none => o
  | some c =>
    let named := c.spec.bind (·.volumeName)
    match named.bind fun v => (o.volumes v).map fun record => (v, record) with
    | none => o
    | some (v, record) =>
      let spec := record.spec.getD {}
      if spec.claimRef.isSome then o
      else
        let ref : ClaimRef :=
          { kind := some "PersistentVolumeClaim", space := some space, name := some name,
            uid := c.metadata.uid }
        { o with
          volumes := o.volumes.put v
            (some { record with spec := some { spec with claimRef := some ref } })
          claims := o.claims.put (space, name)
            (some { c with status := some { (c.status.getD {}) with phase := some "Bound" } }) }

/-- Look at a claim, which may be the look on which it is bound. -/
def lookAtClaim (o : OrchestratorState) (space name : String) : Option Claim × OrchestratorState :=
  let o := match o.unbound (space, name) with
    | none => o
    | some n =>
      if n ≤ 1 then { o with unbound := o.unbound.put (space, name) none }.bind space name
      else { o with unbound := o.unbound.put (space, name) (some (n - 1)) }
  (o.claims (space, name), o)

/-- Keep a new claim and bind it by the rule. -/
def addClaim (o : OrchestratorState) (space : String) (c : Claim) : Claim × OrchestratorState :=
  let made := { c with metadata :=
    { c.metadata with space := some space, uid := some ("uid-" ++ toString (o.claimsMade + 1)) } }
  let claims := o.claims.put (space, c.name) (some made)
  let o := { o with claims, claimsMade := o.claimsMade + 1 }
  (made,
    match o.binding with
    | .atOnce => o.bind space c.name
    | .onLook times => { o with unbound := o.unbound.put (space, c.name) (some times) }
    | .never => o)

/-- Mark a node as one on which new pods may or may not be placed. -/
def mark (n : Node) (unschedulable : Bool) : Node :=
  { n with spec := some { (n.spec.getD {}) with unschedulable := some unschedulable } }

/-- How an orchestrator answers a request, and what becomes of it. -/
def answer : (r : Request) → OrchestratorState → Except Failure r.Answer × OrchestratorState
  | .node name, o => (.ok (o.nodes name), o)
  | .setUnschedulable name unschedulable, o =>
    match o.nodes name with
    | none => (.error (.resourceNotFound "Node" name), o)
    | some n => (.ok (), { o with nodes := o.nodes.put name (some (mark n unschedulable)) })
  | .nodeDrivers, o => (.ok o.nodeDrivers, o)
  | .pods space, o => (.ok (o.listPods space).1, (o.listPods space).2)
  | .deletePod space name, o => (.ok (), o.deletePod space name)
  | .volume name, o => (.ok (o.volumes name), o)
  | .createVolume v, o =>
    if (o.volumes v.name).isSome then (.error (.resourceExists "PersistentVolume" v.name), o)
    else (.ok v, { o with volumes := o.volumes.put v.name (some v) })
  | .replaceVolume v, o =>
    if (o.volumes v.name).isSome then (.ok v, { o with volumes := o.volumes.put v.name (some v) })
    else (.error (.resourceNotFound "PersistentVolume" v.name), o)
  | .deleteVolume name, o => (.ok (), { o with volumes := o.volumes.put name none })
  | .claim space name, o => (.ok (o.lookAtClaim space name).1, (o.lookAtClaim space name).2)
  | .createClaim space c, o =>
    if (o.claims (space, c.name)).isSome then
      (.error (.resourceExists "PersistentVolumeClaim" c.name), o)
    else (.ok (o.addClaim space c).1, (o.addClaim space c).2)
  | .deleteClaim space name, o => (.ok (), { o with claims := o.claims.put (space, name) none })
  | .mayI verb resource _, o => (.ok (!o.denied.contains (verb, resource)), o)

end OrchestratorState

end ClusterVolumes.Site
