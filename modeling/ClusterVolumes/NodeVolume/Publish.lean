import ClusterVolumes.NodeVolume.Stage

/-!
# Showing volumes to pods

A staged volume is mounted once more at a path of the pod that uses it. Only pods of one node may
use a volume, and a pod may be kept from writing.
-/

namespace ClusterVolumes.NodeVolume

open Csi

/-- The access modes that a pod may have. -/
def isSupported (mode : AccessMode) : Bool :=
  mode = .singleNodeWriter || mode = .singleNodeReaderOnly

/-- Is the pod kept from writing? -/
def isReadOnly (request : NodePublishVolumeRequest) (mode : AccessMode) : Bool :=
  request.readonly || mode = .singleNodeReaderOnly

/-- Check a request to show a volume, up to the use that is asked for. -/
def publishCapabilityOf (request : NodePublishVolumeRequest) : Except Failure VolumeCapability := do
  required request.volumeId "volume id"
  match request.volumeCapability with
  | none => throw (.invalidArgument "volume capability is required")
  | some capability => do
    if !isSupported capability.mode then
      throw (.invalidArgument ("access mode " ++ capability.mode.word ++ " is not supported"))
    required request.stagingTargetPath "staging target path"
    required request.targetPath "target path"
    let _ ← devicePathOf request.publishContext
    if capability.isBlock then throw (.unimplemented "NodePublishVolume for block volumes")
    pure capability

/-- The options of the mount for a pod. -/
def publishOptions (request : NodePublishVolumeRequest) (capability : VolumeCapability) :
    List String :=
  "bind" :: (if isReadOnly request capability.mode then "ro" else "rw") :: capability.mountFlags

/-- Mount a staged volume for a pod. -/
def publish (request : NodePublishVolumeRequest) : Service Unit := do
  let capability ← Service.ofExcept (publishCapabilityOf request)
  if ← Service.mounts (.isMountPoint request.targetPath) then return ()
  ensureFolder request.targetPath
  Service.mounts (.mount request.stagingTargetPath request.targetPath none
    (publishOptions request capability))

/-- Mount a volume no longer for a pod. The folder is left if it cannot be taken away. -/
def unpublish (request : NodeUnpublishVolumeRequest) : Service Unit := do
  Service.ofExcept (required request.volumeId "volume id")
  Service.ofExcept (required request.targetPath "target path")
  Service.mounts (.unmount request.targetPath)
  let _ ← Service.removeFolder request.targetPath

end ClusterVolumes.NodeVolume
