import ClusterVolumes.Csi.Message
import ClusterVolumes.Fleet
import ClusterVolumes.Service

/-!
# Free space

How much is free on the storage where a volume would go. A node that does not have the storage has
no space on it.
-/

namespace ClusterVolumes.Provisioning

open Csi

/-- The free space of a storage in a zone. -/
def getCapacity {κ : Type} (fleet : Fleet κ) (request : GetCapacityRequest) :
    Service GetCapacityResponse := do
  let topology ← Service.require request.accessibleTopology
    (.invalidArgument "accessible topology is required")
  let region ← Service.require topology.region? (.invalidArgument "topology region is required")
  let zone ← Service.require (topology.zone? <|> topology.node?)
    (.invalidArgument "topology zone is required")
  let storage ← Service.require ((request.parameters.get? "storage").filter fun s => !s.isEmpty)
    (.invalidArgument "parameter storage is required")
  let _ ← Service.ofExcept (fleet.get region)
  match ← (Service.cluster region (.storageStatus zone storage)).attempt with
  | .ok status => pure { availableCapacity := status.avail }
  | .error f =>
    if f.isParameterVerification then pure { availableCapacity := 0 }
      else throw (.invalidArgument f.message)

/-- What the driver can do for a whole cluster. -/
def capabilities : List ControllerCapability :=
  [.createDeleteVolume, .publishUnpublishVolume, .getCapacity, .expandVolume, .getVolume]

end ClusterVolumes.Provisioning
