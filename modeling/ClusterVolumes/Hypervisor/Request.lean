import ClusterVolumes.Hypervisor.Report
import ClusterVolumes.TextMap

/-!
# Requests to a cluster

What the driver asks of a hypervisor cluster, and the type of each answer. `Request.mutates` tells
the three requests that change disks from those that only look.
-/

namespace ClusterVolumes.Hypervisor

/-- A request to one cluster. -/
inductive Request
  | version
  | members
  | resources (kind : ResourceKind)
  | storageStatus (node storage : String)
  | storageContent (node storage : String)
  | createDisk (node storage : String) (disk : DiskRequest)
  | deleteDisk (node storage volid : String)
  | vmConfig (node : String) (vmid : UInt32)
  | copyVolume (node storage volid target : String)
  | taskStatus (node task : String)
  deriving DecidableEq, Repr

/-- The type of the answer to a request, if it does not fail. A new disk is answered by its volid,
and the start of a copy by its task. -/
@[reducible] def Request.Answer : Request → Type
  | version => ApiVersion
  | members => List ClusterMember
  | resources _ => List ClusterResource
  | storageStatus .. => StorageStatus
  | storageContent .. => List StorageVolume
  | createDisk .. => String
  | deleteDisk .. => Unit
  | vmConfig .. => StringMap
  | copyVolume .. => String
  | taskStatus .. => TaskStatus

/-- Does the request change what is stored? -/
def Request.mutates : Request → Bool
  | createDisk .. | deleteDisk .. | copyVolume .. => true
  | _ => false

end ClusterVolumes.Hypervisor
