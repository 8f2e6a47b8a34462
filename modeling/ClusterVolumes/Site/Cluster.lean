import ClusterVolumes.Failure
import ClusterVolumes.Hypervisor.Request
import ClusterVolumes.Site.Keyed

/-!
# A cluster as it answers

The state of a cluster that does what it is asked: its members and resources, its storages with the
disks on them, its machines and its tasks. `ClusterState.answer` is how each request is answered and
what it changes.

A storage is shared if some node says so; then all nodes see one set of disks, which is kept under
no node (`diskHome`).
-/

namespace ClusterVolumes.Site

open Hypervisor

/-- A storage as one node sees it. -/
structure StorageEntry where
  node : String
  storage : String
  status : StorageStatus
  deriving Repr

/-- A disk and where it is kept. -/
structure StoredDisk where
  node : String
  storage : String
  volume : StorageVolume
  deriving DecidableEq, Repr

/-- A task: how often it will be found running, and what is found then. -/
structure Task where
  name : String
  polls : Nat
  final : TaskStatus
  deriving DecidableEq, Repr

/-- How the copying of disks goes: whether the copy is made, and what becomes of the task. -/
structure CopyRule where
  lands : Bool := true
  polls : Nat := 1
  final : TaskStatus := { status := "stopped", exitStatus := some "OK" }
  deriving DecidableEq, Repr

/-- The state of a cluster. -/
structure ClusterState where
  version : ApiVersion := {}
  members : List ClusterMember := []
  machines : List ClusterResource := []
  storageResources : List ClusterResource := []
  nodeResources : List ClusterResource := []
  storages : List StorageEntry := []
  disks : List StoredDisk := []
  configs : Keyed (String × UInt32) StringMap := Keyed.empty
  tasks : List Task := []
  copying : CopyRule := {}

namespace ClusterState

/-- The entry of a storage on a node. -/
def entry? (c : ClusterState) (node storage : String) : Option StorageEntry :=
  c.storages.find? fun e => e.node = node && e.storage = storage

/-- Does some node say that the storage is shared? -/
def isShared (c : ClusterState) (storage : String) : Bool :=
  c.storages.any fun e => e.storage = storage && e.status.shared

/-- The node under which the disks are kept that a node sees on a storage, empty if all nodes see
them. -/
def diskHome (c : ClusterState) (node storage : String) : String :=
  if c.isShared storage then "" else node

/-- Is the disk one of those that a node sees on a storage? -/
def sees (c : ClusterState) (node storage : String) (d : StoredDisk) : Bool :=
  d.node = c.diskHome node storage && d.storage = storage

/-- The disks that a node sees on a storage, in the order in which they were made. -/
def disksOn (c : ClusterState) (node storage : String) : List StorageVolume :=
  (c.disks.filter (c.sees node storage)).map (·.volume)

/-- Keep a disk where a node sees it. -/
def addDisk (c : ClusterState) (node storage : String) (volume : StorageVolume) : ClusterState :=
  { c with disks := c.disks ++ [⟨c.diskHome node storage, storage, volume⟩] }

/-- Take away the disks of a name that a node sees on a storage. -/
def removeDisk (c : ClusterState) (node storage volid : String) : ClusterState :=
  { c with disks := c.disks.filter fun d => !(c.sees node storage d && d.volume.volid = volid) }

/-- List a member, in place of one of the same name. -/
def putMember (c : ClusterState) (m : ClusterMember) : ClusterState :=
  { c with members := c.members.filter (fun x => x.name ≠ m.name) ++ [m] }

/-- The refusal of a storage that a node does not have. -/
def unknownStorage (region storage : String) : Failure :=
  .clusterApi region (some 400)
    ("Parameter verification failed. (storage: storage '" ++ storage ++ "' does not exist)")

/-- The refusal of a disk that is not there. -/
def unknownDisk (region volid : String) : Failure :=
  .clusterApi region (some 500) ("volume " ++ volid ++ " does not exist")

/-- The name under which the cluster keeps a new disk: a disk with a format lies in the folder of
its machine. -/
def newVolid (storage : String) (disk : DiskRequest) : String :=
  match disk.format with
  | some _ => storage ++ ":" ++ toString disk.vmid.toNat ++ "/" ++ disk.filename
  | none => storage ++ ":" ++ disk.filename

/-- A number in eight upper-case hexadecimal digits. -/
def hex8 (n : Nat) : String :=
  let digits := (Nat.toDigits 16 n).map Char.toUpper
  String.ofList (List.replicate (8 - digits.length) '0' ++ digits)

/-- The name of the next task that is started for a node. -/
def nextTask (c : ClusterState) (node : String) : String :=
  "UPID:" ++ node ++ ":" ++ hex8 c.tasks.length ++ ":imgcopy"

/-- Keep a task, in place of one of the same name. -/
def putTask (c : ClusterState) (t : Task) : ClusterState :=
  if c.tasks.any fun u => u.name = t.name then
    { c with tasks := c.tasks.map fun u => if u.name = t.name then t else u }
  else { c with tasks := c.tasks ++ [t] }

/-- Start to copy a disk to another node. -/
def copy (c : ClusterState) (region node storage volid target : String) :
    Except Failure String × ClusterState :=
  if (c.entry? target storage).isNone then (.error (unknownStorage region storage), c)
  else
    let start (c : ClusterState) : Except Failure String × ClusterState :=
      (.ok (c.nextTask node), c.putTask ⟨c.nextTask node, c.copying.polls, c.copying.final⟩)
    if c.copying.lands then
      match (c.disksOn node storage).find? fun v => v.volid = volid with
      | none => (.error (unknownDisk region volid), c)
      | some volume => start (c.addDisk target storage volume)
    else start c

/-- Look at a task: while it is to be found running it counts down. -/
def look (c : ClusterState) (region task : String) : Except Failure TaskStatus × ClusterState :=
  match c.tasks.find? fun t => t.name = task with
  | none => (.error (.clusterApi region (some 500) ("no such task " ++ task)), c)
  | some t =>
    if t.polls = 0 then (.ok t.final, c)
    else (.ok { status := "running" }, c.putTask { t with polls := t.polls - 1 })

/-- How a cluster answers a request, and what becomes of it. -/
def answer (region : String) : (r : Request) → ClusterState → Except Failure r.Answer × ClusterState
  | .version, c => (.ok c.version, c)
  | .members, c => (.ok c.members, c)
  | .resources .vm, c => (.ok c.machines, c)
  | .resources .storage, c => (.ok c.storageResources, c)
  | .resources .node, c => (.ok c.nodeResources, c)
  | .storageStatus node storage, c =>
    match c.entry? node storage with
    | some e => (.ok e.status, c)
    | none => (.error (unknownStorage region storage), c)
  | .storageContent node storage, c =>
    if (c.entry? node storage).isSome then (.ok (c.disksOn node storage), c)
    else (.error (unknownStorage region storage), c)
  | .createDisk node storage disk, c =>
    (.ok (newVolid storage disk),
      c.addDisk node storage ⟨newVolid storage disk, disk.sizeBytes, disk.format.getD "",
        some disk.vmid⟩)
  | .deleteDisk node storage volid, c =>
    if (c.disksOn node storage).any fun v => v.volid = volid then
      (.ok (), c.removeDisk node storage volid)
    else (.error (unknownDisk region volid), c)
  | .vmConfig node vmid, c =>
    match c.configs (node, vmid) with
    | some config => (.ok config, c)
    | none =>
      (.error (.clusterApi region (some 500)
        ("Configuration file 'qemu-server/" ++ toString vmid.toNat ++ ".conf' does not exist")), c)
  | .copyVolume node storage volid target, c => c.copy region node storage volid target
  | .taskStatus _ task, c => c.look region task

end ClusterState

end ClusterVolumes.Site
