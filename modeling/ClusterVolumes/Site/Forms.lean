import ClusterVolumes.Orchestrator.Manifest
import ClusterVolumes.Site.Cluster
import ClusterVolumes.Site.Mounts

/-!
# Written forms of the parts of a site

How storages, disks, tasks and other parts of a site are written, so that a site can be described by
a document. What is missing has its usual value.
-/

namespace ClusterVolumes

open Hypervisor

namespace Site

def StorageEntry.record : Record StorageEntry where
  start := ⟨"", "", {}⟩
  fields :=
    [ .defaulted "node" .text "" (·.node) (fun x s => { s with node := x }),
      .defaulted "storage" .text "" (·.storage) (fun x s => { s with storage := x }),
      .defaulted "status" StorageStatus.record.codec {} (·.status) fun x s =>
        { s with status := x } ]

def StoredDisk.record : Record StoredDisk where
  start := ⟨"", "", {}⟩
  fields :=
    [ .defaulted "node" .text "" (·.node) (fun x s => { s with node := x }),
      .defaulted "storage" .text "" (·.storage) (fun x s => { s with storage := x }),
      .of "volume" StorageVolume.record.codec (·.volume) fun x s => { s with volume := x } ]

/-- The configuration of a machine. -/
structure MachineConfig where
  node : String := ""
  vmid : UInt32 := 0
  config : StringMap := ∅

def MachineConfig.record : Record MachineConfig where
  start := {}
  fields :=
    [ .defaulted "node" .text "" (·.node) (fun x s => { s with node := x }),
      .defaulted "vmid" .word32 0 (·.vmid) (fun x s => { s with vmid := x }),
      .defaulted "config" .stringMap ∅ (·.config) fun x s => { s with config := x } ]

/-- The greatest count that is read. -/
def maxCount : Nat := UInt64.size - 1

def Task.record : Record Task where
  start := ⟨"", 0, {}⟩
  fields :=
    [ .defaulted "upid" .text "" (·.name) (fun x s => { s with name := x }),
      .defaulted "polls" (.natUpTo maxCount) 0 (·.polls) (fun x s => { s with polls := x }),
      .defaulted "final" TaskStatus.record.codec {} (·.final) fun x s => { s with final := x } ]

def CopyRule.record : Record CopyRule where
  start := {}
  fields :=
    [ .defaulted "lands" .bool true (·.lands) (fun x s => { s with lands := x }),
      .defaulted "polls" (.natUpTo maxCount) 1 (·.polls) (fun x s => { s with polls := x }),
      .defaulted "final" TaskStatus.record.codec (CopyRule.final {}) (·.final) fun x s =>
        { s with final := x } ]

end Site

def Mount.Usage.record : Record Mount.Usage where
  start := {}
  fields :=
    [ .defaulted "total_bytes" .word64 0 (·.totalBytes) (fun x s => { s with totalBytes := x }),
      .defaulted "available_bytes" .word64 0 (·.availableBytes)
        (fun x s => { s with availableBytes := x }),
      .defaulted "used_bytes" .word64 0 (·.usedBytes) (fun x s => { s with usedBytes := x }),
      .defaulted "total_inodes" .word64 0 (·.totalInodes) (fun x s => { s with totalInodes := x }),
      .defaulted "free_inodes" .word64 0 (·.freeInodes) (fun x s => { s with freeInodes := x }),
      .defaulted "used_inodes" .word64 0 (·.usedInodes) fun x s => { s with usedInodes := x } ]

end ClusterVolumes
