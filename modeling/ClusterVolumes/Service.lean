import ClusterVolumes.Failure
import ClusterVolumes.FileTree
import ClusterVolumes.Hypervisor.Request
import ClusterVolumes.Mount.Request
import ClusterVolumes.Orchestrator.Request
import ClusterVolumes.Program

/-!
# Services

A service of the driver is a program over its collaborators: the clusters by region, the
orchestrator, the mount table and the files of the node, the clock, and the locks that keep two
calls from changing one disk at a time. Each of the first three may fail in any way; a service fails
with one `Failure`.

- `Service.attempt` turns a failure into a value;
- `Service.deadline` breaks the work off if the clock cannot show when a wait is over;
- `Service.poll` asks at fixed intervals until an answer decides.
-/

namespace ClusterVolumes

/-- A call of a collaborator. -/
inductive Call
  | cluster (region : String) (request : Hypervisor.Request)
  | orchestrator (request : Orchestrator.Request)
  | mounts (request : Mount.Request)
  | files
  | makeFolders (path : String)
  | removeFolder (path : String)
  | writeFile (path text : String)
  | sleep (milliseconds : Nat)
  | deadline (milliseconds : Nat)
  | acquire (key : String)
  | release (key : String)
  deriving Repr

/-- The type of the answer to a call. The answer to `files` is the tree as it is at that moment, and
that to `deadline` is whether the clock can show the time so much later. -/
@[reducible] def Call.Answer : Call → Type
  | cluster _ r => Except Failure r.Answer
  | orchestrator r => Except Failure r.Answer
  | mounts r => Except Failure r.Answer
  | files => FileTree
  | makeFolders _ => Except SystemFailure Unit
  | removeFolder _ => Except SystemFailure Unit
  | writeFile .. => Except SystemFailure Unit
  | sleep _ => Unit
  | deadline _ => Bool
  | acquire _ => Unit
  | release _ => Unit

/-- The collaborators of the driver's services. -/
def collaborators : Interface := ⟨Call, Call.Answer⟩

/-- A program over the collaborators that may fail. -/
abbrev Service (α : Type) : Type := ExceptT Failure (Program collaborators) α

namespace Service

variable {α : Type}

/-! ## Calls -/

/-- Ask a cluster. -/
def cluster (region : String) (r : Hypervisor.Request) : Service r.Answer :=
  ExceptT.mk (Program.request (I := collaborators) (.cluster region r))

/-- Ask the orchestrator. -/
def orchestrator (r : Orchestrator.Request) : Service r.Answer :=
  ExceptT.mk (Program.request (I := collaborators) (.orchestrator r))

/-- Ask the mount table. -/
def mounts (r : Mount.Request) : Service r.Answer :=
  ExceptT.mk (Program.request (I := collaborators) (.mounts r))

/-- The files of the node as they are. -/
def files : Service FileTree :=
  ExceptT.lift (Program.request (I := collaborators) .files)

/-- Make a folder, after those that lead to it. -/
def makeFolders (path : String) : Service (Except SystemFailure Unit) :=
  ExceptT.lift (Program.request (I := collaborators) (.makeFolders path))

/-- Take away an empty folder. -/
def removeFolder (path : String) : Service (Except SystemFailure Unit) :=
  ExceptT.lift (Program.request (I := collaborators) (.removeFolder path))

/-- Write a file. -/
def writeFile (path text : String) : Service (Except SystemFailure Unit) :=
  ExceptT.lift (Program.request (I := collaborators) (.writeFile path text))

/-- Let time pass. -/
def sleep (milliseconds : Nat) : Service Unit :=
  ExceptT.lift (Program.request (I := collaborators) (.sleep milliseconds))

/-- Wait for a lock. -/
def acquire (key : String) : Service Unit :=
  ExceptT.lift (Program.request (I := collaborators) (.acquire key))

/-- Give a lock back. -/
def release (key : String) : Service Unit :=
  ExceptT.lift (Program.request (I := collaborators) (.release key))

/-! ## Failure -/

/-- The outcome of a service, as a value. -/
def attempt (s : Service α) : Service (Except Failure α) :=
  ExceptT.lift s.run

/-- A service whose failure is told in other words. -/
def rewording (f : Failure → Failure) (s : Service α) : Service α :=
  ExceptT.mk (do return (← s.run).mapError f)

/-- The value that must be there. -/
def require (o : Option α) (otherwise : Failure) : Service α :=
  match o with
  | some a => pure a
  | none => throw otherwise

/-- An outcome that was computed without a call. -/
def ofExcept (e : Except Failure α) : Service α :=
  ExceptT.mk (pure e)

/-- Hold a lock while a service runs, and give it back in either case. -/
def holding (key : String) (s : Service α) : Service α := do
  acquire key
  let outcome ← s.attempt
  release key
  ofExcept outcome

/-! ## Polling -/

/-- The time at which a wait that begins now is over must be one that the clock can show. -/
def deadline (timeout : Nat) : Service Unit := do
  let shown : Bool ← ExceptT.lift (Program.request (I := collaborators) (.deadline timeout))
  if shown then pure () else throw .clockOverflow

/-- How often one can ask from time 0 to a time limit, both included, with a pause after each
question. Without a pause there is no end to it; the number given then stands for that. -/
def attempts (timeout pause : Nat) : Nat :=
  if pause = 0 then UInt64.size else timeout / pause + 1

/-- Ask up to `n` times, with a pause after each question that decides nothing. -/
def poll (pause : Nat) (question : Service (Option α)) : (n : Nat) → Service (Option α)
  | 0 => pure none
  | n + 1 => do
    match ← question with
    | some a => pure (some a)
    | none =>
      sleep pause
      poll pause question n

/-- Ask until an answer decides, or fail when the time is over. -/
def pollUntil (timeout pause : Nat) (question : Service (Option α)) (late : Failure) :
    Service α := do
  deadline timeout
  require (← poll pause question (attempts timeout pause)) late

end Service

end ClusterVolumes
