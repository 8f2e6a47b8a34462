import ClusterVolumes.Maintenance.Drain
import ClusterVolumes.Maintenance.Retention

/-!
# Giving volumes to other claims

A claim can neither be renamed nor be given another volume, so it is deleted and a new one is
created that asks for the wanted volume by name. `Maintenance.rebind` does so for several claims at
a time, with their volumes retained until all new claims are bound; `rename` and `swap` are its two
uses.
-/

namespace ClusterVolumes

open Orchestrator

/-- A claim that is to be rebuilt under a name and with a volume. -/
structure Rebinding where
  /-- The claim that is deleted, after which the new one is modelled. -/
  claim : Claim
  name : String
  volume : VolumeRecord
  deriving Repr

namespace Orchestrator

/-- What the annotations begin with that belong to the orchestrator's own binding of claims. -/
def bindingAnnotation : String := "pv.kubernetes.io/"

/-- The annotations that a new claim takes over. -/
def Metadata.ownAnnotations (m : Metadata) : Option StringMap :=
  let kept := (m.annotations.getD ∅).filterKeys fun k =>
    (Text.dropStart? bindingAnnotation.toList k.toList).isNone
  if kept.isEmpty then none else some kept

/-- How much storage a volume has. -/
def VolumeRecord.capacity? (v : VolumeRecord) : Option String :=
  (v.spec.bind (·.capacity)).bind fun c => c.get? "storage"

/-- The same request for another amount of storage. -/
def ClaimSpec.requesting (amount : String) (s : ClaimSpec) : ClaimSpec :=
  let resources := s.resources.getD {}
  { s with resources := some { resources with
      requests := some ((resources.requests.getD ∅).insert "storage" amount) } }

/-- The same claim under another name, for a volume. -/
def Claim.rebuilt (c : Claim) (name : String) (v : VolumeRecord) : Claim where
  metadata :=
    { name := some name, space := c.metadata.space, labels := c.metadata.labels
      annotations := c.metadata.ownAnnotations }
  spec :=
    let spec := { c.spec.getD {} with volumeName := some v.name }
    some (match v.capacity? with
      | some amount => spec.requesting amount
      | none => spec)
  status := none

/-- Has the claim got its volume? -/
def Claim.isBound (c : Claim) : Bool :=
  c.status.bind (·.phase) = some "Bound"

end Orchestrator

namespace Maintenance

/-- Has a claim of a namespace got its volume? -/
def isBound (space name : String) : Service (Option Unit) := do
  match ← Service.orchestrator (.claim space name) with
  | some c => pure (if c.isBound then some () else none)
  | none => pure none

/-- Wait until a claim has got its volume. -/
def awaitBound (m : Maintenance) (space name : String) : Service Unit :=
  Service.pollUntil m.timing.draining m.timing.pause (isBound space name)
    (.timedOut "claim binding" (claimPath space name))

/-- Delete the claims of a plan and create them anew with their volumes. The volumes are on
`retained` from before the first claim is deleted until the last one is bound again. -/
def rebind (m : Maintenance) (space : String) (plan : List Rebinding) : Service Unit := do
  let policies ← plan.mapM fun r => retain r.volume.name
  plan.forM fun r => Service.orchestrator (.deleteClaim space r.claim.name)
  plan.forM fun r => unclaim r.volume.name
  plan.forM fun r => do
    let _ ← Service.orchestrator (.createClaim space (r.claim.rebuilt r.name r.volume))
  plan.forM fun r => m.awaitBound space r.name
  (plan.zip policies).forM fun (r, policy) => setPolicy r.volume.name policy

/-- Give a claim another name, with its volume kept. -/
def rename (m : Maintenance) (space old new : String) (force : Bool) : Service Unit := do
  if old = new then throw (.invalidArgument "old and new claim names are the same")
  else if (← Service.orchestrator (.claim space new)).isSome then
    throw (.resourceExists "PersistentVolumeClaim" (claimPath space new))
  else
    let bound ← m.boundClaim space old
    m.whileDrained space [old] force (m.rebind space [⟨bound.claim, new, bound.volume⟩])

/-- Give each of two claims the volume of the other. -/
def swap (m : Maintenance) (space first second : String) (force : Bool) : Service Unit := do
  if first = second then throw (.invalidArgument "cannot swap a claim with itself")
  else
    let a ← m.boundClaim space first
    let b ← m.boundClaim space second
    if a.volume.name = b.volume.name then
      throw (.conflict (first ++ " and " ++ second ++ " share volume " ++ a.volume.name))
    else
      m.whileDrained space [first, second] force
        (m.rebind space [⟨a.claim, first, b.volume⟩, ⟨b.claim, second, a.volume⟩])

end Maintenance

end ClusterVolumes
