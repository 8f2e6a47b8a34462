import ClusterVolumes.Yaml.Cursor

/-!
# Scalars

A text in a YAML document can be written plainly, between quotes, or as an indented block. Within
the first two, the end of a line counts as a blank, and further empty lines as ends of lines
(`Gap.fold`).
-/

namespace ClusterVolumes.Yaml

/-! ## Gaps between words -/

/-- Blanks and ends of lines between two words: blanks on one line, or the first end of a line and
the others. -/
structure Gap where
  blanks : List Char := []
  broken : Bool := false
  first : List Char := []
  more : List Char := []

/-- What a gap counts as. -/
def Gap.fold (g : Gap) : List Char :=
  if !g.broken then g.blanks
  else if g.first = ['\n'] then if g.more.isEmpty then [' '] else g.more
  else g.first ++ g.more

/-- Read the rest of a gap. A tab must not stand before the column `indent`. -/
def gap (indent : Nat) : (fuel : Nat) → Gap → Scan Gap
  | 0, g => pure g
  | n + 1, g => do
    match ← Scan.next? with
    | none => pure g
    | some c =>
      if isBlank c then
        if g.broken && c = '\t' && (← Scan.column) < indent then Scan.fail
        else
          Scan.skip 1
          gap indent n (if g.broken then g else { g with blanks := g.blanks ++ [c] })
      else if isBreak c then
        let kept ← Scan.lineEnd
        gap indent n
          (if g.broken then { g with more := g.more ++ kept }
           else { broken := true, first := kept })
      else pure g

/-- Read the rest of a gap to its end. -/
def gapToEnd (indent : Nat) (g : Gap) : Scan Gap := do
  gap indent ((← Scan.rest).length + 1) g

/-- How a scalar is written: plainly, between quotes, or as an indented block whose ends of lines are
kept or folded. -/
inductive Style
  | plain
  | quoted
  | literal
  | folded
  deriving DecidableEq, Repr

/-! ## Plain scalars -/

/-- How many characters of a text belong to a plain word. Within brackets more characters end it,
and a colon before one of them is malformed. -/
def wordLength (inFlow : Bool) : List Char → Option Nat
  | [] => some 0
  | c :: rest =>
    if isBlank c || isBreak c then some 0
    else if inFlow && c = ':' && (rest.head?.map ",?[]\x7b\x7d".toList.contains).getD false then
      none
    else if c = ':' && startsBlank rest then some 0
    else if inFlow && ",[]\x7b\x7d".toList.contains c then some 0
    else (wordLength inFlow rest).map (· + 1)

/-- Read a plain word. -/
def word (inFlow : Bool) : Scan (List Char) := do
  let rest ← Scan.rest
  let n ← StateT.lift (wordLength inFlow rest)
  Scan.skip n
  pure (rest.take n)

/-- Read the words of a plain scalar with the gaps between them, `before` being the gap before the
next word. A scalar outside of brackets ends before a word that is indented too little. Tells also
whether a line ended behind it. -/
def plainWords (inFlow : Bool) (indent : Nat) : (fuel : Nat) → (before : Gap) →
    Scan (List Char × Bool)
  | 0, before => pure ([], before.broken)
  | n + 1, before => do
    if (← Scan.atDocumentMark) || (← Scan.next?) = some '#' then pure ([], before.broken)
    else
      let w ← word inFlow
      if w.isEmpty then pure ([], before.broken)
      else
        let after ← gapToEnd indent {}
        let (more, broken) ←
          if (after.blanks.isEmpty && !after.broken) || (!inFlow && (← Scan.column) < indent) then
            pure ([], after.broken)
          else plainWords inFlow indent n after
        pure (before.fold ++ w ++ more, broken)

/-- Read a plain scalar. -/
def plain (inFlow : Bool) (indent : Nat) : Scan (String × Bool) := do
  let (cs, broken) ← plainWords inFlow indent ((← Scan.rest).length + 1) {}
  pure (String.ofList cs, broken)

/-! ## Quoted scalars -/

/-- The value of a hexadecimal digit. -/
def hexValue? (c : Char) : Option Nat :=
  if '0' ≤ c ∧ c ≤ '9' then some (c.toNat - 48)
  else if 'a' ≤ c ∧ c ≤ 'f' then some (c.toNat - 87)
  else if 'A' ≤ c ∧ c ≤ 'F' then some (c.toNat - 55)
  else none

/-- The character whose code point the given number of hexadecimal digits writes. -/
def codePoint? (digits : Nat) (cs : List Char) : Option Char := do
  let values ← (cs.take digits).mapM hexValue?
  let n := values.foldl (fun n d => 16 * n + d) 0
  if values.length = digits && n.isValidChar then some (Char.ofNat n) else none

/-- The characters that stand for others behind a backslash. -/
def escapes : List (Char × Char) :=
  [ ('0', '\x00'), ('a', '\x07'), ('b', '\x08'), ('t', '\t'), ('\t', '\t'), ('n', '\n'),
    ('v', '\x0b'), ('f', '\x0c'), ('r', '\r'), ('e', '\x1b'), (' ', ' '), ('"', '"'), ('/', '/'),
    ('\'', '\''), ('\\', '\\'), ('N', '\x85'),
    ('_', '\xa0'), ('L', '\u2028'), ('P', '\u2029') ]

/-- Read what stands behind a backslash. -/
def escaped : Scan Char := do
  match ← Scan.rest with
  | [] => Scan.fail
  | c :: rest =>
    let digits := match c with
      | 'x' => 2
      | 'u' => 4
      | 'U' => 8
      | _ => 0
    let found ← StateT.lift (if digits = 0 then escapes.lookup c else codePoint? digits rest)
    Scan.skip (digits + 1)
    pure found

/-- Where a run of characters between quotes ends: at the closing quote, at a gap, or at a line's
end that is escaped. -/
inductive RunEnd
  | quote
  | gap
  | join
  deriving DecidableEq

/-- Read characters between quotes up to a gap. -/
def quotedRun (single : Bool) : (fuel : Nat) → Scan (List Char × RunEnd)
  | 0 => Scan.fail
  | n + 1 => do
    match ← Scan.rest with
    | [] => Scan.fail
    | '\'' :: '\'' :: _ =>
      Scan.skip (if single then 2 else 1)
      let (more, ended) ← quotedRun single n
      pure ('\'' :: more, ended)
    | c :: rest =>
      if c = (if single then '\'' else '"') then
        Scan.skip 1
        pure ([], .quote)
      else if isBlank c || isBreak c then pure ([], .gap)
      else if !single && c = '\\' then
        Scan.skip 1
        if (rest.head?.map isBreak).getD false then
          let _ ← Scan.lineEnd
          pure ([], .join)
        else
          let e ← escaped
          let (more, ended) ← quotedRun single n
          pure (e :: more, ended)
      else
        Scan.skip 1
        let (more, ended) ← quotedRun single n
        pure (c :: more, ended)

/-- Read runs of characters with the gaps between them up to the closing quote. -/
def quotedRuns (single : Bool) : (fuel : Nat) → Scan (List Char)
  | 0 => Scan.fail
  | n + 1 => do
    if ← Scan.atDocumentMark then Scan.fail
    else
      let (run, ended) ← quotedRun single ((← Scan.rest).length + 1)
      match ended with
      | .quote => pure run
      | .gap =>
        let g ← gapToEnd 0 {}
        pure (run ++ g.fold ++ (← quotedRuns single n))
      | .join =>
        let g ← gapToEnd 0 { broken := true }
        pure (run ++ g.fold ++ (← quotedRuns single n))

/-- Read a scalar between quotes, from the opening one on. -/
def quotedScalar (single : Bool) : Scan String := do
  Scan.skip 1
  pure (String.ofList (← quotedRuns single ((← Scan.rest).length + 1)))

/-! ## Block scalars -/

/-- What becomes of the ends of lines at the end of a block. -/
inductive Chomping
  | strip
  | clip
  | keep
  deriving DecidableEq

/-- Read the marks behind the indicator of a block: what becomes of its end, and how far it is
indented. -/
def blockHeader : Scan (Chomping × Option Nat) := do
  let chomping : Scan (Option Chomping) := do
    match ← Scan.next? with
    | some '+' => Scan.skip 1; pure (some .keep)
    | some '-' => Scan.skip 1; pure (some .strip)
    | _ => pure none
  let indentation : Scan (Option Nat) := do
    match ← Scan.next? with
    | some c =>
      if c = '0' then Scan.fail
      else if c.isDigit then
        Scan.skip 1
        pure (some (c.toNat - 48))
      else pure none
    | none => pure none
  match ← chomping with
  | some c => pure (c, ← indentation)
  | none =>
    match ← indentation with
    | none => pure (.clip, none)
    | some n => pure ((← chomping).getD .clip, some n)

/-- Go over the rest of a line, on which only a comment may stand. -/
def restOfLine : Scan Unit := do
  let _ ← Scan.takeWhile isBlank
  if (← Scan.next?) = some '#' then
    let _ ← Scan.takeWhile fun c => !isBreak c
  if startsBlank (← Scan.rest) then
    let _ ← Scan.lineEnd
  else Scan.fail

/-- Go over empty lines before a line of a block, and tell the ends of lines and the greatest column
that was met. A block whose indentation is not known yet is given as none. -/
def emptyLines (indent : Option Nat) : (fuel : Nat) → (breaks : List Char) → (deepest : Nat) →
    Scan (List Char × Nat)
  | 0, breaks, deepest => pure (breaks, deepest)
  | n + 1, breaks, deepest => do
    let column ← Scan.column
    let spaces := (← Scan.rest).takeWhile (· = ' ')
    Scan.skip (match indent with
      | some i => min spaces.length (i - column)
      | none => spaces.length)
    let column ← Scan.column
    let deepest := max deepest column
    match ← Scan.next? with
    | some c =>
      if c = '\t' && (indent.map fun i => decide (column < i)).getD true then Scan.fail
      else if isBreak c then emptyLines indent n (breaks ++ (← Scan.lineEnd)) deepest
      else pure (breaks, deepest)
    | none => pure (breaks, deepest)

/-- Read the lines of a block. `pending` is the end of the line before, `afterBlank` whether that
line began with a blank. -/
def blockLines (literal : Bool) (indent : Nat) : (fuel : Nat) → (pending breaks : List Char) →
    (afterBlank : Bool) →
    Scan (List Char × List Char × List Char)
  | 0, pending, breaks, _ => pure ([], pending, breaks)
  | n + 1, pending, breaks, afterBlank => do
    let column ← Scan.column
    let next ← Scan.next?
    match next.filter fun _ => column = indent with
    | some c =>
      let startsBlank := isBlank c
      let joint :=
        if !literal && pending = ['\n'] && !afterBlank && !startsBlank then
          (if breaks.isEmpty then [' '] else []) ++ breaks
        else pending ++ breaks
      let line ← Scan.takeWhile fun c => !isBreak c
      let ended ← Scan.lineEnd
      let (breaks, _) ← emptyLines (some indent) ((← Scan.rest).length + 1) [] 0
      let (more, pending, breaks) ← blockLines literal indent n ended breaks startsBlank
      pure (joint ++ line ++ more, pending, breaks)
    | none => pure ([], pending, breaks)

/-- Read a block scalar, from its indicator on, in a collection that is indented by so much, none
outside of all. -/
def block (literal : Bool) (parent : Option Nat) : Scan String := do
  Scan.skip 1
  let (chomping, given) ← blockHeader
  restOfLine
  let fixed := given.map fun n => (parent.getD 0) + n
  let (breaks, deepest) ← emptyLines fixed ((← Scan.rest).length + 1) [] 0
  let least := (parent.map (· + 1)).getD 1
  let indent := fixed.getD (max deepest (max least 1))
  let (text, pending, breaks) ← blockLines literal indent ((← Scan.rest).length + 1) [] breaks false
  let ending := match chomping with
    | .strip => []
    | .clip => pending
    | .keep => pending ++ breaks
  pure (String.ofList (text ++ ending))

end ClusterVolumes.Yaml
