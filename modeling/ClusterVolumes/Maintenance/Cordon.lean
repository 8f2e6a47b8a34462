import ClusterVolumes.Maintenance.Basic
import ClusterVolumes.Text.Quoted

/-!
# Cordons

While volumes are moved no pod may be placed on the nodes of the driver. A `Cordon` holds nodes
back, and its release gives back each node that it holds, whatever becomes of the others.
-/

namespace ClusterVolumes

open Orchestrator

/-- Nodes that are held back from new pods. -/
structure Cordon where
  nodes : List String := []
  deriving DecidableEq, Repr

namespace Cordon

/-- Hold a node back. The node counts as held even if the orchestrator fails to say that it is,
because it may be; a node that is held already is left alone. -/
def hold (c : Cordon) (node : String) : Service (Cordon × Except Failure Unit) :=
  if node ∈ c.nodes then pure (c, .ok ())
  else do
    let outcome ← (Service.orchestrator (.setUnschedulable node true)).attempt
    pure (⟨c.nodes ++ [node]⟩, outcome)

/-- Hold nodes back in turn, up to the first failure. -/
def holdAll (c : Cordon) : List String → Service (Cordon × Except Failure Unit)
  | [] => pure (c, .ok ())
  | node :: rest => do
    match ← c.hold node with
    | (c, .ok _) => holdAll c rest
    | (c, .error f) => pure (c, .error f)

/-- Give all nodes back. A node that cannot be given back does not keep the others. -/
def release (c : Cordon) : Service Unit :=
  c.nodes.forM fun node => do
    let _ ← (Service.orchestrator (.setUnschedulable node false)).attempt

/-- A cordon as messages show it. -/
def text (c : Cordon) : String :=
  "CordonGuard \x7b nodes: " ++ Text.quotedList c.nodes ++ " \x7d"

end Cordon

/-- The names of the nodes on which a driver is installed, in rising order. -/
def Orchestrator.NodeDrivers.namesWith (driver : String) (l : List NodeDrivers) : List String :=
  let here := (l.filter fun n => n.spec.drivers.any fun d => d.name = driver).filterMap
    (·.metadata.name)
  (TextMap.ofList (here.map fun name => (name, ()))).keys

/-- The nodes on which the driver is installed. -/
def Maintenance.driverNodes (m : Maintenance) : Service (List String) := do
  pure (NodeDrivers.namesWith m.driver (← Service.orchestrator .nodeDrivers))

end ClusterVolumes
