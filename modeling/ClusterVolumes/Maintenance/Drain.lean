import ClusterVolumes.Maintenance.BoundClaim
import ClusterVolumes.Maintenance.Cordon

/-!
# Draining

Before a volume can be moved, no pod may use its claim. `Maintenance.drain` finds the pods that do,
and if it is told to force them, holds back the nodes of the driver, deletes the pods and waits
until they are gone. `Maintenance.whileDrained` does some work in between and gives the nodes back
in every case.
-/

namespace ClusterVolumes

open Orchestrator

namespace Orchestrator.Pod

/-- Has the pod been given a node? One that has not holds no volume. -/
def isScheduled (p : Pod) : Bool :=
  match p.spec.bind (·.nodeName) with
  | some node => !node.isEmpty
  | none => false

/-- Has the pod run to its end? -/
def isFinished (p : Pod) : Bool :=
  match p.status.bind (·.phase) with
  | some phase => phase = "Succeeded" || phase = "Failed"
  | none => false

/-- The claims whose volumes the pod mounts. -/
def claimNames (p : Pod) : List String :=
  ((p.spec.bind (·.volumes)).getD []).filterMap fun v => v.claim.map (·.claimName)

/-- Does the pod use one of some claims? -/
def consumes (claims : List String) (p : Pod) : Bool :=
  p.isScheduled && !p.isFinished && p.claimNames.any fun c => claims.contains c

end Orchestrator.Pod

namespace Maintenance

/-- The pods of a namespace that use one of some claims. -/
def consumers (space : String) (claims : List String) : Service (List Pod) := do
  pure ((← Service.orchestrator (.pods space)).filter (Pod.consumes claims))

/-- Is no pod left that uses one of some claims? -/
def areFree (space : String) (claims : List String) : Service (Option Unit) := do
  pure (if (← consumers space claims).isEmpty then some () else none)

/-- Delete the pods that use some claims, wait until none does, and then for things to settle. After
the time for it there is one more look before the wait is given up. -/
def clear (m : Maintenance) (space : String) (claims : List String) (pods : List Pod) :
    Service Unit := do
  pods.forM fun p => Service.orchestrator (.deletePod space p.name)
  Service.deadline m.timing.draining
  let inTime ← Service.poll m.timing.pause (areFree space claims)
    (Service.attempts m.timing.draining m.timing.pause)
  match inTime with
  | some _ => pure ()
  | none =>
    Service.require (← areFree space claims)
      (.timedOut "pod termination" (space ++ "/" ++ Text.quotedList claims))
  Service.sleep m.timing.settling

/-- See to it that no pod uses some claims. Nothing is held back if there is none; otherwise the
nodes of the driver are, unless the drain fails. -/
def drain (m : Maintenance) (space : String) (claims : List String) (force : Bool) :
    Service (Option Cordon) := do
  let pods ← consumers space claims
  if pods.isEmpty then pure none
  else if !force then
    throw (.conflict (Text.quotedList claims ++ " in use by pods " ++
      Text.quotedList (pods.map (·.name)) ++
      ", use --force to evict them"))
  else
    let (held, cordoned) ← Cordon.holdAll {} (← m.driverNodes)
    let cleared : Service Unit := do
      Service.ofExcept cordoned
      m.clear space claims pods
    match ← cleared.attempt with
    | .ok _ => pure (some held)
    | .error f =>
      held.release
      throw f

/-- Do some work while no pod uses some claims. -/
def whileDrained (m : Maintenance) (space : String) (claims : List String) (force : Bool)
    (work : Service Unit) :
    Service Unit := do
  let held ← m.drain space claims force
  let outcome ← work.attempt
  (held.getD {}).release
  Service.ofExcept outcome

end Maintenance

end ClusterVolumes
