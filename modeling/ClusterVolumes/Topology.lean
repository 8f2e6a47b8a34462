import ClusterVolumes.TextMap
import ClusterVolumes.Text.Unsigned
import ClusterVolumes.Volume.Handle

/-!
# Topology and placement

Nodes and volumes are placed by labels: a region, a zone in it, and the node itself. Region and zone
may be given under a label of the driver, which wins, or under the orchestrator's general one.

`Placement.resolve` gathers a placement from the entries of a requirement, the preferred ones first,
field by field: each field is taken from the first entry that has it, and no entry is looked at once
the placement is `complete`.
-/

namespace ClusterVolumes

namespace Label

/-- The driver's label for the region. -/
def region : String := "topology.pve.billyronks.io/region"

/-- The driver's label for the zone. -/
def zone : String := "topology.pve.billyronks.io/zone"

/-- The orchestrator's label for the region. -/
def generalRegion : String := "topology.kubernetes.io/region"

/-- The orchestrator's label for the zone. -/
def generalZone : String := "topology.kubernetes.io/zone"

/-- The label for the node that a volume is tied to. -/
def node : String := "topology.pve.billyronks.io/node"

/-- The label of a node that limits how many volumes may be attached to it. -/
def maxVolumes : String := "csi.pve.billyronks.io/max-volumes"

end Label

/-- Labels of a node, or of the nodes from which a volume can be reached. -/
structure Topology where
  segments : StringMap := ∅
  deriving DecidableEq, Repr

/-- Where a volume is wanted: in one of the requisite entries, and rather in one of the preferred
ones. -/
structure TopologyRequirement where
  requisite : List Topology := []
  preferred : List Topology := []
  deriving DecidableEq, Repr

namespace Topology

/-- The text of a label, if it is not empty. -/
def get? (t : Topology) (label : String) : Option String :=
  (t.segments.get? label).filter fun s => !s.isEmpty

/-- The region, the driver's label first. -/
def region? (t : Topology) : Option String :=
  t.get? Label.region <|> t.get? Label.generalRegion

/-- The zone, the driver's label first. -/
def zone? (t : Topology) : Option String :=
  t.get? Label.zone <|> t.get? Label.generalZone

/-- The node. -/
def node? (t : Topology) : Option String :=
  t.get? Label.node

/-- The nodes from which a volume can be reached: those of its zone, or of its region if the zone is
empty. -/
def reaching (v : VolumeHandle) : Topology :=
  let region : StringMap := (∅ : StringMap).insert Label.region v.region
  ⟨if v.isShared then region else region.insert Label.zone v.zone⟩

end Topology

/-- What is known about where a volume goes. -/
structure Placement where
  region : Option String := none
  zone : Option String := none
  node : Option String := none
  deriving DecidableEq, Repr

namespace Placement

/-- Nothing more is needed once the region and one of zone and node are known. -/
def complete (p : Placement) : Bool :=
  p.region.isSome && (p.zone.isSome || p.node.isSome)

/-- Fill what is not known from one entry. -/
def absorb (p : Placement) (t : Topology) : Placement :=
  ⟨p.region <|> t.region?, p.zone <|> t.zone?, p.node <|> t.node?⟩

/-- Fill what is not known from the entries in turn, until nothing more is needed. -/
def gather (p : Placement) : List Topology → Placement
  | [] => p
  | t :: ts => if (p.absorb t).complete then p.absorb t else (p.absorb t).gather ts

/-- The placement that a requirement asks for. -/
def resolve (requirement : TopologyRequirement) : Placement :=
  gather {} (requirement.preferred ++ requirement.requisite)

/-- The node that the disk lands on, empty if it may be any. -/
def landsOn (p : Placement) : String :=
  (p.zone <|> p.node).getD ""

end Placement

end ClusterVolumes
