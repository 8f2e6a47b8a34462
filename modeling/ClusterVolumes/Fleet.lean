import ClusterVolumes.Failure
import ClusterVolumes.TextMap

/-!
# The fleet of clusters

The clusters that the driver looks after, one to a region. `κ` is what is kept of a cluster: how to
reach it, or only what it lets the driver do.
-/

namespace ClusterVolumes

/-- At least one cluster, under distinct regions. -/
structure Fleet (κ : Type) where
  clusters : TextMap κ

namespace Fleet

variable {κ : Type}

/-- Put clusters into a map, unless two have one region. -/
def gather : List (String × κ) → TextMap κ → Except Failure (TextMap κ)
  | [], m => .ok m
  | (region, cluster) :: rest, m =>
    if m.contains region then
      .error (.configuration ("region " ++ region ++ " is configured more than once"))
    else gather rest (m.insert region cluster)

/-- The fleet of clusters that are given with their regions. -/
def ofClusters (l : List (String × κ)) : Except Failure (Fleet κ) :=
  if l.isEmpty then .error .noClusters else (gather l ∅).map Fleet.mk

/-- The cluster of a region. -/
def get (f : Fleet κ) (region : String) : Except Failure κ :=
  match f.clusters.get? region with
  | some cluster => .ok cluster
  | none => .error (.regionNotFound region)

/-- The regions in rising order. -/
def regions (f : Fleet κ) : List String :=
  f.clusters.keys

/-- The fleet with less kept of each cluster. -/
def map {μ : Type} (g : κ → μ) (f : Fleet κ) : Fleet μ :=
  ⟨f.clusters.map g⟩

end Fleet

/-- What a cluster lets the driver do: only a user who logged in may copy disks. -/
structure ClusterAccess where
  privileged : Bool := false
  deriving DecidableEq, Repr

/-- May the driver copy disks in a region? -/
def Fleet.isPrivileged (f : Fleet ClusterAccess) (region : String) : Except Failure Bool :=
  (f.get region).map (·.privileged)

end ClusterVolumes
