import ClusterVolumes.Csi.Message
import ClusterVolumes.Service
import ClusterVolumes.Text.Blank
import ClusterVolumes.Text.Unsigned

/-!
# Nodes as they present themselves

Where a node is, by its labels, and how many volumes may be attached to it.
-/

namespace ClusterVolumes.NodeVolume

open Csi

/-- How many volumes may be attached to a node that does not say. -/
def defaultMaxVolumes : Nat := 24

/-- How many volumes a node may ask for at most. -/
def maxVolumesLimit : Nat := 30

/-- How many volumes may be attached to a node with the given labels. -/
def maxVolumes (labels : StringMap) : Nat :=
  match (labels.get? Label.maxVolumes).bind fun s =>
    Text.readUnsigned maxVolumesLimit (Text.trim s) with
  | some n => if n = 0 then defaultMaxVolumes else n
  | none => defaultMaxVolumes

/-- The text of the first of some labels that has one. -/
def firstLabel? (labels : StringMap) (keys : List String) : Option String :=
  (keys.filterMap labels.get?).find? fun s => !s.isEmpty

/-- Where a node with the given labels is. -/
def topologyOf (node : String) (labels : StringMap) : Except Failure Topology :=
  match firstLabel? labels [Label.region, Label.generalRegion],
      firstLabel? labels [Label.zone, Label.generalZone] with
  | none, _ => .error (.failedPrecondition ("node " ++ node ++ " has no region label"))
  | some _, none => .error (.failedPrecondition ("node " ++ node ++ " has no zone label"))
  | some region, some zone => .ok ⟨TextMap.ofList [(Label.region, region), (Label.zone, zone)]⟩

/-- A node as the driver presents it. -/
def info (nodeId : String) : Service NodeGetInfoResponse := do
  let node ← Service.require (← Service.orchestrator (.node nodeId))
    (.resourceNotFound "Node" nodeId)
  let labels := node.metadata.labels.getD ∅
  let topology ← Service.ofExcept (topologyOf nodeId labels)
  pure
    { nodeId
      maxVolumesPerNode := UInt64.ofNat (maxVolumes labels)
      accessibleTopology := some topology }

/-- What the driver can do on a node. -/
def capabilities : List NodeCapability :=
  [.stageUnstageVolume, .expandVolume, .getVolumeStats]

end ClusterVolumes.NodeVolume
