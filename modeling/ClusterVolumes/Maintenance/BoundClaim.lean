import ClusterVolumes.Maintenance.Basic
import ClusterVolumes.Volume.Handle

/-!
# Bound claims

A claim together with the volume that it names and the handle of that volume.
`Maintenance.boundClaim` finds them, and refuses a claim without a volume and a volume of another
driver.
-/

namespace ClusterVolumes

open Orchestrator

/-- A claim with its volume. -/
structure BoundClaim where
  claim : Claim
  volume : VolumeRecord
  handle : VolumeHandle
  deriving Repr

/-- The name of a claim with its namespace, as messages show it. -/
def claimPath (space name : String) : String :=
  space ++ "/" ++ name

namespace Orchestrator

/-- The name of the volume that a claim asks for or has. -/
def Claim.volumeName? (c : Claim) : Option String :=
  (c.spec.bind (·.volumeName)).filter fun v => !v.isEmpty

/-- The part of a volume that belongs to a driver, if it is this one. -/
def VolumeRecord.sourceOf? (v : VolumeRecord) (driver : String) : Option DriverSource :=
  (v.spec.bind (·.source)).filter fun s => s.driver = driver

end Orchestrator

namespace Maintenance

/-- The record of a volume, which must exist. -/
def volumeRecord (name : String) : Service VolumeRecord := do
  Service.require (← Service.orchestrator (.volume name))
    (.resourceNotFound "PersistentVolume" name)

/-- The claim of a name with its volume, which must be one of the driver. -/
def boundClaim (m : Maintenance) (space name : String) : Service BoundClaim := do
  let claim ← Service.require (← Service.orchestrator (.claim space name))
    (.resourceNotFound "PersistentVolumeClaim" (claimPath space name))
  let volumeName ← Service.require claim.volumeName?
    (.conflict ("PersistentVolumeClaim " ++ claimPath space name ++ " is not bound"))
  let volume ← volumeRecord volumeName
  let source ← Service.require (volume.sourceOf? m.driver)
    (.conflict ("PersistentVolume " ++ volumeName ++ " is not managed by " ++ m.driver))
  let handle ← Service.ofExcept (VolumeHandle.parseLegacy source.volumeHandle)
  pure ⟨claim, volume, handle⟩

end Maintenance

end ClusterVolumes
