/-!
# A place in a YAML text

What is still to be read of a text, and where that stands: YAML goes by columns and lines. A `Scan`
reads on from a place or finds that the text is malformed.
-/

namespace ClusterVolumes.Yaml

/-- What is still to be read, and where it stands. -/
structure Cursor where
  rest : List Char
  index : Nat := 0
  line : Nat := 0
  column : Nat := 0

/-- Some reading of a text. -/
abbrev Scan (α : Type) : Type := StateT Cursor Option α

/-- Blanks within a line. -/
def isBlank (c : Char) : Bool :=
  c = ' ' || c = '\t'

/-- Characters that end a line. -/
def isBreak (c : Char) : Bool :=
  c = '\n' || c = '\r' || c = '\x85' || c = '\u2028' || c = '\u2029'

/-- Does a blank, a line's end or the text's end stand at the head of a text? -/
def startsBlank : List Char → Bool
  | [] => true
  | c :: _ => isBlank c || isBreak c

/-- The characters that may stand in a YAML text. -/
def isAllowed (c : Char) : Bool :=
  let n := c.toNat
  n = 0x9 || n = 0xA || n = 0xD || (0x20 ≤ n && n ≤ 0x7E) || n = 0x85 || (0xA0 ≤ n && n ≤ 0xD7FF) ||
    (0xE000 ≤ n && n ≤ 0xFFFD) || 0x10000 ≤ n

namespace Scan

/-- The text that is still to be read. -/
def rest : Scan (List Char) := do
  pure (← get).rest

/-- The next character. -/
def next? : Scan (Option Char) := do
  pure (← get).rest.head?

/-- The column of the next character. -/
def column : Scan Nat := do
  pure (← get).column

/-- The text is malformed. -/
def fail {α : Type} : Scan α :=
  StateT.lift none

/-- Go over some characters within a line. -/
def skip (n : Nat) : Scan Unit :=
  modify fun c => { c with rest := c.rest.drop n, index := c.index + n, column := c.column + n }

/-- Take the characters within a line that satisfy a test. -/
def takeWhile (p : Char → Bool) : Scan (List Char) := do
  let taken := (← rest).takeWhile p
  skip taken.length
  pure taken

/-- Go over a line's end, if one stands here, and tell what it counts as. -/
def lineEnd : Scan (List Char) := do
  let go (kept : List Char) (n : Nat) : Scan (List Char) := do
    modify fun c =>
      { c with rest := c.rest.drop n, index := c.index + n, line := c.line + 1, column := 0 }
    pure kept
  match ← rest with
  | '\r' :: '\n' :: _ => go ['\n'] 2
  | c :: _ =>
    if c = '\n' || c = '\r' || c = '\x85' then go ['\n'] 1
    else if isBreak c then go [c] 1
    else pure []
  | [] => pure []

/-- Does the mark of a document's start or end stand here? -/
def atDocumentMark : Scan Bool := do
  match (← get).column, ← rest with
  | 0, '-' :: '-' :: '-' :: more => pure (startsBlank more)
  | 0, '.' :: '.' :: '.' :: more => pure (startsBlank more)
  | _, _ => pure false

end Scan

end ClusterVolumes.Yaml
