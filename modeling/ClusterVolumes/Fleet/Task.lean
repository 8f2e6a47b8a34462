import ClusterVolumes.Service

/-!
# Tasks of a cluster

A cluster does long work in tasks. `awaitTask` asks for the state of one until it stops.
-/

namespace ClusterVolumes.Fleet

/-- Ask a task's state once: none while it runs, and a failure if it stopped otherwise than well. -/
def taskDone (region node task : String) : Service (Option Unit) := do
  let status ← Service.cluster region (.taskStatus node task)
  if status.isRunning then pure none
  else if status.isOk then pure (some ())
  else throw (.taskFailed task (status.exitStatus.getD status.status))

/-- Wait until a task stops. Both times are in milliseconds. -/
def awaitTask (region node task : String) (timeout pause : Nat) : Service Unit :=
  Service.pollUntil timeout pause (taskDone region node task) (.timedOut "task completion" task)

end ClusterVolumes.Fleet
