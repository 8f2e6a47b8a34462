import ClusterVolumes.Fleet
import ClusterVolumes.Service
import ClusterVolumes.Volume.Handle

/-!
# Machines of a fleet

A node of the orchestrator is a virtual machine of some cluster, and a disk in use is named in the
configuration of the machine that has it.

- `Fleet.findMachine` finds the machine behind a node;
- `Fleet.findDiskOwner` finds the machine that has a volume's disk.
-/

namespace ClusterVolumes

/-- By what a machine is looked for. -/
inductive MachineFilter
  | named (name : String)
  | withUuid (uuid : String)
  | both (name uuid : String)
  deriving DecidableEq, Repr

namespace MachineFilter

/-- The node's name, if the machine is looked for by it. -/
def name? : MachineFilter → Option String
  | named name | both name _ => some name
  | withUuid _ => none

/-- The machine's uuid, if it is looked for by it. -/
def uuid? : MachineFilter → Option String
  | withUuid uuid | both _ uuid => some uuid
  | named _ => none

end MachineFilter

/-- Where a machine is. -/
structure Machine where
  region : String
  node : String
  vmid : UInt32
  name : String
  deriving DecidableEq, Repr

namespace Machine

/-- A node has the name of its machine, perhaps with a domain behind it. -/
def isNamed (node machine : String) : Bool :=
  node = machine ||
    match Text.dropStart? machine.toList node.toList with
    | some ('.' :: _) => true
    | _ => false

/-- The uuid among the settings of a machine's firmware. -/
def uuidOf? (settings : String) : Option String :=
  (Text.pieces ',' settings.toList).findSome? fun part =>
    (Text.dropStart? "uuid=".toList part).map String.ofList

/-- Are two texts equal up to the case of ASCII letters? -/
def sameLetters (a b : String) : Bool :=
  a.toList.map Char.toLower = b.toList.map Char.toLower

/-- Does a machine's configuration tell the wanted uuid? -/
def hasUuid (config : StringMap) (uuid : String) : Bool :=
  match (config.get? "smbios1").bind uuidOf? with
  | some found => sameLetters found uuid
  | none => false

/-- What the configuration of a machine says of its disks stands before the first comma of an
entry. -/
def hasDisk (config : StringMap) (volid : String) : Bool :=
  config.values.any fun value => value.toList.takeWhile (· ≠ ',') = volid.toList

end Machine

namespace Fleet

open Hypervisor (ClusterResource)

/-- The first machine of a list that is looked for. -/
def findMachineAmong (region : String) (filter : MachineFilter) : List ClusterResource →
    Service (Option Machine)
  | [] => pure none
  | r :: rest =>
    match r.kind, r.vmid, r.name with
    | "qemu", some vmid, some name => do
      if (filter.name?.map fun wanted => Machine.isNamed wanted name).getD true then
        let fits ← match filter.uuid? with
          | none => pure true
          | some uuid => do
            let config ← Service.cluster region (.vmConfig r.node vmid)
            pure (Machine.hasUuid config uuid)
        if fits then pure (some ⟨region, r.node, vmid, name⟩)
          else findMachineAmong region filter rest
      else findMachineAmong region filter rest
    | _, _, _ => findMachineAmong region filter rest

/-- The first machine of a region that is looked for. -/
def findMachineIn (region : String) (filter : MachineFilter) : Service (Option Machine) := do
  findMachineAmong region filter (← Service.cluster region (.resources .vm))

/-- The first machine of some regions that is looked for. -/
def findMachineOver (filter : MachineFilter) : (regions : List String) → Service Machine
  | [] => throw (.resourceNotFound "VM" ((filter.name? <|> filter.uuid?).getD ""))
  | region :: rest => do
    match ← findMachineIn region filter with
    | some machine => pure machine
    | none => findMachineOver filter rest

/-- The first machine of the fleet that is looked for. -/
def findMachine {κ : Type} (f : Fleet κ) (filter : MachineFilter) : Service Machine :=
  findMachineOver filter f.regions

/-- The first machine of a list that has a disk. The machine under whose number the driver keeps its
disks has none, and a disk that lies on one node can only be had by a machine there. -/
def findOwnerAmong (volume : VolumeHandle) : List ClusterResource → Service (Option Machine)
  | [] => pure none
  | r :: rest =>
    match r.kind, r.vmid with
    | "qemu", some vmid => do
      if vmid.toNat = DiskName.reservedVm ∨ (!volume.isShared ∧ r.node ≠ volume.zone) then
        findOwnerAmong volume rest
      else
        let config ← Service.cluster volume.region (.vmConfig r.node vmid)
        if Machine.hasDisk config volume.volid then
          pure (some ⟨volume.region, r.node, vmid, r.name.getD ""⟩)
        else findOwnerAmong volume rest
    | _, _ => findOwnerAmong volume rest

/-- The machine that has the disk of a volume. -/
def findDiskOwner {κ : Type} (f : Fleet κ) (volume : VolumeHandle) : Service (Option Machine) := do
  let _ ← Service.ofExcept (f.get volume.region)
  findOwnerAmong volume (← Service.cluster volume.region (.resources .vm))

/-! ## Reachability -/

/-- Ask a cluster for its version, members and machines. -/
def check (region : String) : Service Unit := do
  let _ ← Service.cluster region .version
  let _ ← Service.cluster region .members
  let _ ← Service.cluster region (.resources .vm)

/-- Ask every cluster, up to the first one that fails. -/
def checkAll {κ : Type} (f : Fleet κ) : Service Unit :=
  f.regions.forM check

end Fleet

end ClusterVolumes
