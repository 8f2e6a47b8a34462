import ClusterVolumes.Failure
import ClusterVolumes.Mount.Request
import ClusterVolumes.Program
import ClusterVolumes.Text.Blank
import ClusterVolumes.Text.Unsigned

/-!
# Mounting by tools of the host

A host keeps its mount table by programs of its own: `mount`, `umount` and `findmnt`, `blkid` and
`mkfs` for file systems, `resize2fs` and `xfs_growfs` to grow them, `blockdev` for the size of a
device. `Mount.perform` says which of them a request about mounts runs, with which arguments, and
what is made of their answers.
-/

namespace ClusterVolumes.Mount

/-- What a host is asked for. -/
inductive ToolCall
  | run (program : String) (arguments : List String)
  | isThere (path : String)
  | usage (path : String)
  deriving DecidableEq, Repr

/-- How a program ended: with an exit code, or none if it was killed, and with what it printed. -/
structure ToolOutcome where
  code : Option Nat := some 0
  output : String := ""
  complaint : String := ""
  deriving DecidableEq, Repr

/-- The type of a host's answer. -/
@[reducible] def ToolCall.Answer : ToolCall → Type
  | run .. => Except SystemFailure ToolOutcome
  | isThere _ => Bool
  | usage _ => Except SystemFailure Usage

/-- The tools of a host. -/
def tools : Interface := ⟨ToolCall, ToolCall.Answer⟩

/-- A program over the tools of a host that may fail. -/
abbrev ToolUse (α : Type) : Type := ExceptT Failure (Program tools) α

/-- Did the program end well? -/
def ToolOutcome.isSuccess (o : ToolOutcome) : Bool :=
  o.code = some 0

/-! ## Running programs -/

/-- Ask a host. -/
def call (c : ToolCall) : ToolUse c.Answer :=
  ExceptT.lift (Program.request (I := tools) c)

/-- Run a program, which must start. What it prints counts without the blanks around it. -/
def start (program : String) (arguments : List String) : ToolUse ToolOutcome := do
  match ← call (.run program arguments) with
  | .ok o => pure { o with output := Text.trim o.output, complaint := Text.trim o.complaint }
  | .error e =>
    throw (.mountFailed (arguments.getLast?.getD "")
      ("failed to run " ++ program ++ ": " ++ e.message))

/-- The failure of a program at a path. -/
def failed (program path : String) (o : ToolOutcome) : Failure :=
  .mountFailed path (program ++ " failed: " ++ o.complaint)

/-- Run a program, which must end well, and tell what it printed. -/
def succeed (program : String) (arguments : List String) (path : String) : ToolUse String := do
  let o ← start program arguments
  if o.isSuccess then pure o.output else throw (failed program path o)

/-! ## File systems -/

/-- The type of the file system on a device, none if it has none. The program's exit code 2 says
that it found none. -/
def fileSystemOn (device : String) : ToolUse (Option String) := do
  let o ← start "blkid" ["-p", "-s", "TYPE", "-o", "value", device]
  match o.code with
  | some 0 => pure (if o.output.isEmpty then none else some o.output)
  | some 2 => pure none
  | _ => throw (failed "blkid" device o)

/-- Make a file system on a device. Those of the `ext` family ask back unless they are forced. -/
def makeFileSystem (device fsType : String) (arguments : List String) : ToolUse Unit := do
  let force := if (Text.dropStart? "ext".toList fsType.toList).isSome then ["-F"] else []
  let _ ← succeed ("mkfs." ++ fsType) (force ++ arguments ++ [device]) device

/-- Grow a file system of a known type to the size of its device. -/
def grow (device target : String) : ToolUse Unit := do
  let fsType := (← fileSystemOn device).getD ""
  if fsType ∈ ["ext2", "ext3", "ext4"] then
    let _ ← succeed "resize2fs" [device] device
  else if fsType = "xfs" then
    let _ ← succeed "xfs_growfs" [target] target
  else throw (.mountFailed device ("cannot resize filesystem " ++ Text.quoted fsType))

/-- The size of a device in bytes. -/
def deviceSize (device : String) : ToolUse UInt64 := do
  let size ← succeed "blockdev" ["--getsize64", device] device
  match Text.readUnsigned (UInt64.size - 1) size with
  | some n => pure (UInt64.ofNat n)
  | none => throw (.mountFailed device ("unexpected blockdev output " ++ Text.quoted size))

/-! ## Mounts -/

/-- Ask for one column of what is mounted at a path. -/
def mountedAt (target column : String) : ToolUse (Option String) := do
  let o ← start "findmnt" ["--mountpoint", target, "--noheadings", "--output", column]
  pure (if o.isSuccess && !o.output.isEmpty then some o.output else none)

/-- Is something mounted at a path? -/
def isMountPoint (path : String) : ToolUse Bool := do
  if ← call (.isThere path) then pure (← mountedAt path "TARGET").isSome else pure false

/-- The first line of a text. -/
def firstLine (s : String) : String :=
  match Text.cutFirst '\n' s.toList with
  | none => s
  | some (line, _) => String.ofList (if line.getLast? = some '\r' then line.dropLast else line)

/-- The device that is mounted at a path. -/
def deviceAt (target : String) : ToolUse (Option String) := do
  pure ((← mountedAt target "SOURCE").map firstLine)

/-- An option of a program with its value, left out if the value is empty. -/
def optionWith (name value : String) : List String :=
  if value.isEmpty then [] else [name, value]

/-- Mount a device or a folder. -/
def mount (source target : String) (fsType : Option String) (options : List String) :
    ToolUse Unit := do
  let arguments := optionWith "-t" (fsType.getD "") ++
    optionWith "-o" (Text.joinWith "," options) ++ [source, target]
  let _ ← succeed "mount" arguments target

/-- Mount a device after a file system was made on it, unless it has one. -/
def formatAndMount (source target fsType : String) (options mkfsArguments : List String) :
    ToolUse Unit := do
  match ← fileSystemOn source with
  | some _ => pure ()
  | none => makeFileSystem source fsType mkfsArguments
  mount source target (some fsType) options

/-- Take away what is mounted at a path, if something is. -/
def unmount (target : String) : ToolUse Unit := do
  if ← isMountPoint target then
    let _ ← succeed "umount" [target] target
  else pure ()

/-! ## Requests -/

/-- How a host answers a request about its mounts. -/
def perform : (r : Request) → ToolUse r.Answer
  | .isMountPoint path => isMountPoint path
  | .formatAndMount source target fsType options mkfsArguments =>
    formatAndMount source target fsType options mkfsArguments
  | .mount source target fsType options => mount source target fsType options
  | .unmount target => unmount target
  | .deviceAt target => deviceAt target
  | .grow device target => grow device target
  | .usage path => do
    match ← call (.usage path) with
    | .ok u => pure u
    | .error e => throw (.system e)
  | .deviceSize device => deviceSize device

end ClusterVolumes.Mount
