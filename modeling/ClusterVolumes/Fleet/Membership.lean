import ClusterVolumes.Service

/-!
# Nodes of a cluster

A cluster lists itself and its nodes as members. A request that may go to any node goes to the first
one that is online.
-/

namespace ClusterVolumes.Fleet

open Hypervisor (ClusterMember)

/-- Is the member a node that can be asked? -/
def isOnlineNode (m : ClusterMember) : Bool :=
  m.kind = "node" && m.online

/-- The first node of a region that is online. -/
def firstOnlineNode (region : String) : Service String := do
  let members ← Service.cluster region .members
  match members.find? isOnlineNode with
  | some m => pure m.name
  | none => throw (.failedPrecondition ("region " ++ region ++ " has no online node"))

/-- Is a node of a region online? -/
def isOnline (region node : String) : Service Bool := do
  let members ← Service.cluster region .members
  pure (members.any fun m => isOnlineNode m && m.name = node)

end ClusterVolumes.Fleet
