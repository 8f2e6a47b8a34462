import ClusterVolumes.Fleet
import ClusterVolumes.Service

/-!
# Maintenance

The work that an operator starts on volumes that are in use: moving a disk to another node of its
region, giving a claim another name, and exchanging the volumes of two claims. All of it goes by the
claims of one namespace, and only volumes of this driver are touched.
-/

namespace ClusterVolumes

/-- How long the parts of the work may take, in milliseconds. -/
structure Maintenance.Timing where
  /-- The pause between two looks at something that is awaited. -/
  pause : Nat := 5000
  /-- The pause after the last consumer of a volume is gone. -/
  settling : Nat := 5000
  /-- How long pods may take to go, and claims to be bound. -/
  draining : Nat := 300000
  /-- How long a disk may stay attached to a machine. -/
  detaching : Nat := 300000
  deriving DecidableEq, Repr

/-- What the work goes by. -/
structure Maintenance where
  fleet : Fleet ClusterAccess
  /-- The name of the driver whose volumes may be touched. -/
  driver : String
  timing : Maintenance.Timing := {}

end ClusterVolumes
