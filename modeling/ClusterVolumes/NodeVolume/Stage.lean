import ClusterVolumes.Csi.Message
import ClusterVolumes.Device.Discovery
import ClusterVolumes.Provisioning.Attach
import ClusterVolumes.Volume.Options

/-!
# Staging volumes

A node first mounts a volume's disk at a path of its own, once for all pods that use it, and makes a
file system on the disk if it has none. A path that is a mount point already is left as it is.
-/

namespace ClusterVolumes.NodeVolume

open Csi

/-- The file system of a volume for which none is asked. -/
def defaultFsType : String := "ext4"

/-- A text of a request that must not be empty. -/
def required (value what : String) : Except Failure Unit :=
  if value.isEmpty then .error (.invalidArgument (what ++ " is required")) else .ok ()

/-- The device path that was told when the volume was attached. -/
def devicePathOf (publishContext : StringMap) : Except Failure String :=
  match (publishContext.get? Provisioning.publishDevicePath).filter fun p => !p.isEmpty with
  | some path => .ok path
  | none =>
    .error (.invalidArgument (Provisioning.publishDevicePath ++ " is required in publish context"))

/-- What a request to stage a volume says. -/
structure StagePlan where
  staging : String
  capability : VolumeCapability
  devicePath : String

/-- Read the plan of a request to stage a volume. -/
def stagePlanOf (request : NodeStageVolumeRequest) : Except Failure StagePlan := do
  required request.volumeId "volume id"
  required request.stagingTargetPath "staging target path"
  match request.volumeCapability with
  | none => throw (.invalidArgument "volume capability is required")
  | some capability => do
    let devicePath ← devicePathOf request.publishContext
    pure { staging := request.stagingTargetPath, capability, devicePath }

/-- A list with an item at its end, unless it is in it. -/
def including (l : List String) (item : String) : List String :=
  if l.contains item then l else l ++ [item]

/-- The type of file system that is made and mounted. -/
def fsTypeOf (capability : VolumeCapability) : String :=
  if capability.fsType.isEmpty then defaultFsType else capability.fsType

/-- The options of the mount: those that are asked for, those that follow from the volume, and for
xfs leave to mount two file systems with one uuid, as copies of a disk have. -/
def stageOptions (capability : VolumeCapability) (options : VolumeOptions) : List String :=
  let flags := options.mountOptions.foldl including capability.mountFlags
  if fsTypeOf capability = "xfs" then including flags "nouuid" else flags

/-- Make a folder that is needed. -/
def ensureFolder (path : String) : Service Unit := do
  match ← Service.makeFolders path with
  | .ok () => pure ()
  | .error e => throw (.system e)

/-- Mount a volume where the node keeps it. -/
def stage (finder : Device.Finder) (request : NodeStageVolumeRequest) : Service Unit := do
  let plan ← Service.ofExcept (stagePlanOf request)
  if plan.capability.isBlock then return ()
  if ← Service.mounts (.isMountPoint plan.staging) then return ()
  let options ← Service.ofExcept (VolumeOptions.ofMap request.volumeContext)
  let device ← Device.resolve finder plan.devicePath
  ensureFolder plan.staging
  let fsType := fsTypeOf plan.capability
  Service.mounts (.formatAndMount device plan.staging fsType (stageOptions plan.capability options)
    (options.mkfsArguments fsType))

/-- Mount a volume no longer where the node keeps it. -/
def unstage (request : NodeUnstageVolumeRequest) : Service Unit := do
  Service.ofExcept (required request.volumeId "volume id")
  Service.ofExcept (required request.stagingTargetPath "staging target path")
  Service.mounts (.unmount request.stagingTargetPath)

end ClusterVolumes.NodeVolume
