import ClusterVolumes.Orchestrator.Object

/-!
# Requests to the orchestrator

What the driver asks of the container orchestrator, and the type of each answer. Deleting what is
not there is no failure.
-/

namespace ClusterVolumes.Orchestrator

/-- A request to the orchestrator. -/
inductive Request
  | node (name : String)
  | setUnschedulable (node : String) (unschedulable : Bool)
  | nodeDrivers
  | pods (space : String)
  | deletePod (space name : String)
  | volume (name : String)
  | createVolume (volume : VolumeRecord)
  | replaceVolume (volume : VolumeRecord)
  | deleteVolume (name : String)
  | claim (space name : String)
  | createClaim (space : String) (claim : Claim)
  | deleteClaim (space name : String)
  | mayI (verb resource : String) (space : Option String)
  deriving Repr

/-- The type of the answer to a request, if it does not fail. -/
@[reducible] def Request.Answer : Request → Type
  | node _ => Option Node
  | setUnschedulable .. => Unit
  | nodeDrivers => List NodeDrivers
  | pods _ => List Pod
  | deletePod .. => Unit
  | volume _ => Option VolumeRecord
  | createVolume _ => VolumeRecord
  | replaceVolume _ => VolumeRecord
  | deleteVolume _ => Unit
  | claim .. => Option Claim
  | createClaim .. => Claim
  | deleteClaim .. => Unit
  | mayI .. => Bool

/-- Does the request change an object? -/
def Request.mutates : Request → Bool
  | setUnschedulable .. | deletePod .. | createVolume _ | replaceVolume _ | deleteVolume _
  | createClaim .. | deleteClaim .. => true
  | _ => false

end ClusterVolumes.Orchestrator
