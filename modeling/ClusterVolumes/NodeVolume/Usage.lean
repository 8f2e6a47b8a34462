import ClusterVolumes.NodeVolume.Stage

/-!
# Usage and growth of volumes

How full a volume is, and how its file system comes to fill a disk that was enlarged: the disk is
read again first, and the file system grows only if the disk is as large as it is said to be.
-/

namespace ClusterVolumes.NodeVolume

open Csi

/-- The usage of a bare disk: only its size is known. -/
def diskUsage (size : UInt64) : NodeGetVolumeStatsResponse :=
  { usage := [{ total := size, unit := .bytes }] }

/-- The usage of a file system, in bytes and in inodes. -/
def fileSystemUsage (u : Mount.Usage) : NodeGetVolumeStatsResponse :=
  { usage :=
      [ { available := u.availableBytes, total := u.totalBytes, used := u.usedBytes,
          unit := .bytes },
        { available := u.freeInodes, total := u.totalInodes, used := u.usedInodes,
          unit := .inodes } ] }

/-- How full a volume is. -/
def stats (request : NodeGetVolumeStatsRequest) : Service NodeGetVolumeStatsResponse := do
  Service.ofExcept (required request.volumeId "volume id")
  Service.ofExcept (required request.volumePath "volume path")
  match (← Service.files).find request.volumePath with
  | .error (.errno 2) => throw (.resourceNotFound "volume path" request.volumePath)
  | .error e => throw (.system e)
  | .ok .blockDevice => return diskUsage (← Service.mounts (.deviceSize request.volumePath))
  | .ok _ => return fileSystemUsage (← Service.mounts (.usage request.volumePath))

/-- The size that a grown volume must have. -/
def requiredBytes (request : NodeExpandVolumeRequest) : UInt64 :=
  (request.capacityRange.map (·.requiredBytes)).getD 0

/-- Let a volume's file system fill its disk, and tell the disk's size. -/
def expand (finder : Device.Finder) (request : NodeExpandVolumeRequest) :
    Service NodeExpandVolumeResponse := do
  Service.ofExcept (required request.volumeId "volume id")
  Service.ofExcept (required request.volumePath "volume path")
  let device ← Service.require (← Service.mounts (.deviceAt request.volumePath))
    (.resourceNotFound "mount" request.volumePath)
  Device.rescan finder device
  let size : UInt64 ← Service.mounts (.deviceSize device)
  if size < requiredBytes request then
    throw (.internal ("device " ++ device ++ " reports " ++ toString size.toNat ++
      " bytes after rescan, " ++
      toString (requiredBytes request).toNat ++ " requested"))
  unless (request.volumeCapability.map (·.isBlock)).getD false do
    Service.mounts (.grow device request.volumePath)
  pure { capacityBytes := size }

end ClusterVolumes.NodeVolume
