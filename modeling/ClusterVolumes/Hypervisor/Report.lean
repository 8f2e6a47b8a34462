import ClusterVolumes.Json.Codec

/-!
# What a hypervisor cluster reports

The answers of a cluster: its version, its members, its resources, the state and content of its
storages and the state of its tasks, each with the `Record` by which it is read and written. A
cluster tells a truth value in several ways; `Hypervisor.flag` reads them all.
-/

namespace ClusterVolumes.Hypervisor

/-- A truth value as a cluster tells it: `true`, a positive integer, the text `1`, or `true` in any
case of letters. -/
def flagOf : Json → Bool
  | .bool b => b
  | .nat n => n != 0
  | .str (some s) => s == "1" || s.toList.map Char.toLower == ['t', 'r', 'u', 'e']
  | _ => false

/-- A truth value, read from any value. -/
def flag : Codec Bool where
  encode := .bool
  decode room j := (Codec.any.decode room j).map flagOf

/-- The version of a cluster's API. -/
structure ApiVersion where
  version : String := ""
  release : String := ""
  deriving DecidableEq, Repr

def ApiVersion.record : Record ApiVersion where
  start := {}
  fields :=
    [ (Field.of "version" .text (·.version) fun x s => { s with version := x }).must,
      .of "release" .text (·.release) fun x s => { s with release := x } ]

/-- An entry of a cluster's member list: a node, or the cluster itself. -/
structure ClusterMember where
  kind : String := ""
  name : String := ""
  online : Bool := false
  deriving DecidableEq, Repr

def ClusterMember.record : Record ClusterMember where
  start := {}
  fields :=
    [ (Field.of "type" .text (·.kind) fun x s => { s with kind := x }).must,
      (Field.of "name" .text (·.name) fun x s => { s with name := x }).must,
      .of "online" flag (·.online) fun x s => { s with online := x } ]

/-- The kinds by which the resources of a cluster are listed. -/
inductive ResourceKind
  | vm
  | storage
  | node
  deriving DecidableEq, Repr

/-- The word for a kind of resource. -/
def ResourceKind.word : ResourceKind → String
  | vm => "vm"
  | storage => "storage"
  | node => "node"

/-- A machine, a storage on a node, or a node. -/
structure ClusterResource where
  id : String := ""
  kind : String := ""
  node : String := ""
  name : Option String := none
  vmid : Option UInt32 := none
  storage : Option String := none
  status : Option String := none
  shared : Bool := false
  deriving DecidableEq, Repr

def ClusterResource.record : Record ClusterResource where
  start := {}
  fields :=
    [ (Field.of "id" .text (·.id) fun x s => { s with id := x }).must,
      (Field.of "type" .text (·.kind) fun x s => { s with kind := x }).must,
      .of "node" .text (·.node) fun x s => { s with node := x },
      .of "name" Codec.text.option (·.name) fun x s => { s with name := x },
      .of "vmid" Codec.word32.option (·.vmid) fun x s => { s with vmid := x },
      .of "storage" Codec.text.option (·.storage) fun x s => { s with storage := x },
      .of "status" Codec.text.option (·.status) fun x s => { s with status := x },
      .of "shared" flag (·.shared) fun x s => { s with shared := x } ]

/-- The capacity of a storage on one node, and whether all nodes share it. -/
structure StorageStatus where
  total : UInt64 := 0
  used : UInt64 := 0
  avail : UInt64 := 0
  shared : Bool := false
  active : Bool := false
  kind : String := ""
  deriving DecidableEq, Repr

def StorageStatus.record : Record StorageStatus where
  start := {}
  fields :=
    [ .of "total" .word64 (·.total) fun x s => { s with total := x },
      .of "used" .word64 (·.used) fun x s => { s with used := x },
      .of "avail" .word64 (·.avail) fun x s => { s with avail := x },
      .of "shared" flag (·.shared) fun x s => { s with shared := x },
      .of "active" flag (·.active) fun x s => { s with active := x },
      .of "type" .text (·.kind) fun x s => { s with kind := x } ]

/-- A disk on a storage, under the cluster's name `storage:disk`. -/
structure StorageVolume where
  volid : String := ""
  size : UInt64 := 0
  format : String := ""
  vmid : Option UInt32 := none
  deriving DecidableEq, Repr

def StorageVolume.record : Record StorageVolume where
  start := {}
  fields :=
    [ (Field.of "volid" .text (·.volid) fun x s => { s with volid := x }).must,
      .of "size" .word64 (·.size) fun x s => { s with size := x },
      .of "format" .text (·.format) fun x s => { s with format := x },
      .of "vmid" Codec.word32.option (·.vmid) fun x s => { s with vmid := x } ]

/-- A disk that is to be made. -/
structure DiskRequest where
  vmid : UInt32
  filename : String
  sizeBytes : UInt64
  format : Option String
  deriving DecidableEq, Repr

/-- The state of a task of a cluster. -/
structure TaskStatus where
  status : String := ""
  exitStatus : Option String := none
  deriving DecidableEq, Repr

def TaskStatus.record : Record TaskStatus where
  start := {}
  fields :=
    [ (Field.of "status" .text (·.status) fun x s => { s with status := x }).must,
      .of "exitstatus" Codec.text.option (·.exitStatus) fun x s => { s with exitStatus := x } ]

/-- Is the task still at work? -/
def TaskStatus.isRunning (t : TaskStatus) : Bool :=
  t.status == "running"

/-- Did the task end well? -/
def TaskStatus.isOk (t : TaskStatus) : Bool :=
  t.exitStatus == some "OK"

end ClusterVolumes.Hypervisor
