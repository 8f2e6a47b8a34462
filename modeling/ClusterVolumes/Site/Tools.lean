import ClusterVolumes.FileTree
import ClusterVolumes.Mount.Tools

/-!
# Tools that answer from a script

A host on which some programs can be started. Each run takes the next of a list of outcomes, and is
logged.
-/

namespace ClusterVolumes.Site

open Mount

/-- A host whose programs do what a script says. The log holds the latest run first. -/
structure ToolHost where
  programs : List String
  files : FileTree := .empty
  script : List ToolOutcome := []
  log : List (List String) := []

namespace ToolHost

/-- The outcome of a run when the script is at its end. -/
def exhausted : ToolOutcome := { code := some 99, complaint := "script exhausted" }

/-- How a host answers, and what becomes of it. A program whose name or arguments hold NUL is not
looked for. -/
def answer : (c : ToolCall) → ToolHost → c.Answer × ToolHost
  | .run program arguments, h =>
    if (program :: arguments).any fun s => s.contains '\x00' then (.error .nulInArgument, h)
    else if program ∈ h.programs then
      (.ok (h.script.head?.getD exhausted),
        { h with script := h.script.tail, log := (program :: arguments) :: h.log })
    else (.error .noSuchEntry, h)
  | .isThere path, h => (h.files.existsAt path, h)
  | .usage path, h =>
    (match h.files.find path with
      | .ok _ => .ok {}
      | .error .nulInPath => .error .invalidCall
      | .error e => .error e, h)

/-- The outcome of some use of tools, and the host afterwards. -/
def run {α : Type} (use : ToolUse α) (h : ToolHost) : Except Failure α × ToolHost :=
  Program.run (I := tools) answer use.run h

end ToolHost

end ClusterVolumes.Site
