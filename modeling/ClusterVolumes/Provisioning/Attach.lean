import ClusterVolumes.Fleet.Machine
import ClusterVolumes.Provisioning.Create

/-!
# Attaching volumes

To attach a volume is to find the machine of the node and to tell the node under which path it will
find the disk: the path that was recorded when the volume was made, or else the one that follows
from the handle.
-/

namespace ClusterVolumes.Provisioning

open Csi

/-- The key under which a node is told the device path. -/
def publishDevicePath : String := "DevicePath"

/-- The device path of a volume. -/
def devicePathFor (context : StringMap) (volume : VolumeHandle) : String :=
  ((context.get? contextDevicePath).filter fun p => !p.isEmpty).getD volume.devicePath

/-- Attach a volume to a node. -/
def attachVolume {κ : Type} (fleet : Fleet κ) (request : ControllerPublishVolumeRequest) :
    Service ControllerPublishVolumeResponse := do
  if request.volumeId.isEmpty then throw (.invalidArgument "volume id is required")
  if request.nodeId.isEmpty then throw (.invalidArgument "node id is required")
  if request.volumeCapability.isNone then throw (.invalidArgument "volume capability is required")
  if request.readonly then throw (.invalidArgument "readonly volumes are not supported")
  let volume ← Service.ofExcept (VolumeHandle.parseLegacy request.volumeId)
  let _ ← Service.ofExcept (fleet.get volume.region)
  match ← Fleet.findMachineIn volume.region (.named request.nodeId) with
  | none => throw (.resourceNotFound "VM" request.nodeId)
  | some _ =>
    pure { publishContext :=
      TextMap.ofList [(publishDevicePath, devicePathFor request.volumeContext volume)] }

/-- Detach a volume from a node: there is nothing to do but to check the request. -/
def detachVolume (request : ControllerUnpublishVolumeRequest) : Service Unit := do
  if request.volumeId.isEmpty then throw (.invalidArgument "volume id is required")
  if request.nodeId.isEmpty then throw (.invalidArgument "node id is required")
  let _ ← Service.ofExcept (VolumeHandle.parseLegacy request.volumeId)

end ClusterVolumes.Provisioning
