import ClusterVolumes.Csi.Message
import ClusterVolumes.Fleet
import ClusterVolumes.Fleet.Membership
import ClusterVolumes.Volume.Options

/-!
# Creating volumes

A volume is a disk under the driver's own machine number. Where it goes follows from the labels of
the request: the region must be known, and on a storage that is local to each node also the node.
The same request made twice finds the disk that it made, so it makes one disk.
-/

namespace ClusterVolumes.Provisioning

open Csi Hypervisor

/-- The key of a volume's context under which its device path is recorded. -/
def contextDevicePath : String := "subPath"

/-- A failure of a cluster while a volume is made is put down to the request. -/
def asInvalid (f : Failure) : Failure :=
  .invalidArgument f.message

/-- What a request says of the volume that is to be made. -/
structure Plan where
  options : VolumeOptions
  size : UInt64
  placement : Placement
  region : String

/-- Read the plan of a request. -/
def planOf {κ : Type} (fleet : Fleet κ) (request : CreateVolumeRequest) : Except Failure Plan := do
  if request.name.isEmpty then throw (.invalidArgument "volume name is required")
  if request.volumeCapabilities.isEmpty then
    throw (.invalidArgument "volume capabilities are required")
  let options ← VolumeOptions.ofMap request.parameters
  if options.storage.isEmpty then throw (.invalidArgument "parameter storage is required")
  let size ← requestedSize request.capacityRange
  let placement := Placement.resolve (request.accessibilityRequirements.getD {})
  match placement.region with
  | none => throw (.invalidArgument "topology region is required")
  | some region =>
    let _ ← fleet.get region
    pure { options, size, placement, region }

/-- The zone in the handle of a volume: none on a storage that all nodes share, and else the node,
which must have been asked for. -/
def zoneOf (plan : Plan) (node : String) (status : StorageStatus) : Except Failure String :=
  if status.shared then .ok ""
  else if plan.placement.landsOn.isEmpty then
    .error (.invalidArgument
      ("storage " ++ plan.options.storage ++ " is local to each node, a zone is required"))
  else .ok node

/-- The handle of the volume that is to be made. -/
def handleOf (plan : Plan) (name zone : String) : VolumeHandle :=
  VolumeHandle.withFormat plan.region zone plan.options.storage (DiskName.provisioned name)
    (plan.options.format.getD "")

/-- The disk that is to be made for a volume. -/
def diskFor (plan : Plan) (volume : VolumeHandle) : DiskRequest :=
  ⟨UInt32.ofNat DiskName.reservedVm, volume.filename, plan.size, plan.options.format⟩

/-- Make the disk of a volume, unless it is there with the size that is wanted. -/
def ensureDisk (plan : Plan) (node : String) (volume : VolumeHandle) : Service Unit := do
  let content ← (Service.cluster plan.region
    (.storageContent node plan.options.storage)).rewording asInvalid
  match content.find? fun v => v.volid = volume.volid with
  | some found =>
    if found.size ≠ plan.size then
      throw (.conflict ("volume " ++ volume.text ++ " exists with size " ++
        toString found.size.toNat ++
        ", requested " ++ toString plan.size.toNat))
  | none =>
    let _ ← (Service.cluster plan.region
      (.createDisk node plan.options.storage (diskFor plan volume))).rewording
      asInvalid

/-- What is answered about a volume that is there. -/
def responseFor (plan : Plan) (volume : VolumeHandle) : CreateVolumeResponse where
  volume :=
    { capacityBytes := plan.size
      volumeId := volume.text
      volumeContext := plan.options.toMap.insert contextDevicePath volume.devicePath
      accessibleTopology := [Topology.reaching volume] }

/-- Make a volume. -/
def createVolume {κ : Type} (fleet : Fleet κ) (request : CreateVolumeRequest) :
    Service CreateVolumeResponse := do
  let plan ← Service.ofExcept (planOf fleet request)
  let node ←
    if plan.placement.landsOn.isEmpty then Fleet.firstOnlineNode plan.region
      else pure plan.placement.landsOn
  let status ← (Service.cluster plan.region
    (.storageStatus node plan.options.storage)).rewording asInvalid
  let zone ← Service.ofExcept (zoneOf plan node status)
  let volume := handleOf plan request.name zone
  Service.holding volume.text (ensureDisk plan node volume)
  pure (responseFor plan volume)

end ClusterVolumes.Provisioning
