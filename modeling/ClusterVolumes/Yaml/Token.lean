import ClusterVolumes.Yaml.Scalar

/-!
# Tokens of YAML texts

A YAML text as marks and scalars. `Token.ofText?` finds them. The beginnings and ends of block
collections, which the text shows by indentation alone, are tokens of their own.

Whether a scalar is a key is only seen from the colon behind it. So the place where it began is
remembered (`PossibleKey`), and the tokens that belong before it are put there when the colon is
met.
-/

namespace ClusterVolumes.Yaml

/-- A mark or a scalar. -/
inductive Token
  | documentStart
  | documentEnd
  | directive (name argument : String)
  | blockList
  | blockMap
  | blockEnd
  | flowList
  | flowListEnd
  | flowMap
  | flowMapEnd
  | entry
  | comma
  | key
  | value
  | anchor (name : String)
  | alias (name : String)
  | tag (handle suffix : String)
  | scalar (text : String) (style : Style)
  deriving DecidableEq, Repr

/-- The place of something that may turn out to be a key. -/
structure PossibleKey where
  /-- Can the text only be well formed if it is one? -/
  required : Bool
  /-- How many tokens stand before it. -/
  tokens : Nat
  index : Nat
  line : Nat
  column : Nat

/-- What a lexer knows: the tokens so far, and the collections that it is in. -/
structure Lexer where
  cursor : Cursor
  tokens : List Token := []
  /-- The indentation of the innermost block collection, none outside of all. -/
  indent : Option Nat := none
  /-- The indentations of the block collections around it. -/
  outer : List (Option Nat) := []
  /-- May a key begin here? -/
  keyAllowed : Bool := true
  /-- The possible key of the innermost collection between brackets, or of the block that holds all
  of them. -/
  possible : Option PossibleKey := none
  /-- Those of the collections around it. -/
  outerKeys : List (Option PossibleKey) := []

/-- Some work of a lexer on a text, which may be malformed. -/
abbrev Lex (α : Type) : Type := StateT Lexer Option α

namespace Lex

/-! ## Small steps -/

/-- The text is malformed. -/
def fail {α : Type} : Lex α :=
  StateT.lift none

/-- Read on. -/
def scan {α : Type} (s : Scan α) : Lex α := do
  let (a, cursor) ← StateT.lift (s.run (← get).cursor)
  modify fun l => { l with cursor }
  pure a

/-- Add a token. -/
def emit (t : Token) : Lex Unit :=
  modify fun l => { l with tokens := l.tokens ++ [t] }

/-- Put a token behind the first `n` ones. -/
def insertAt (n : Nat) (t : Token) : Lex Unit :=
  modify fun l => { l with tokens := l.tokens.take n ++ t :: l.tokens.drop n }

/-- Say whether a key may begin here. -/
def allowKey (allowed : Bool) : Lex Unit :=
  modify fun l => { l with keyAllowed := allowed }

/-- Is the place between brackets? -/
def inFlow : Lex Bool := do
  pure !(← get).outerKeys.isEmpty

/-- The column of the next character. -/
def column : Lex Nat := do
  pure (← get).cursor.column

/-! ## Possible keys -/

/-- What may be a key begins here. -/
def noteKey : Lex Unit := do
  let l ← get
  if l.keyAllowed then
    let c := l.cursor
    let required := l.outerKeys.isEmpty && l.indent = some c.column
    if (l.possible.map (·.required)).getD false then fail
    else set { l with possible := some ⟨required, l.tokens.length, c.index, c.line, c.column⟩ }

/-- What might have been a key is none. -/
def dropKey : Lex Unit := do
  let l ← get
  if (l.possible.map (·.required)).getD false then fail
  else set { l with possible := none }

/-- A key and the colon behind it are on one line, and not too far from each other. -/
def PossibleKey.isStale (k : PossibleKey) (c : Cursor) : Bool :=
  k.line < c.line || k.index + 1024 < c.index

/-- Forget a possible key from which the text has gone too far. -/
def dropStale (c : Cursor) : Option PossibleKey → Option (Option PossibleKey)
  | none => some none
  | some k =>
    if PossibleKey.isStale k c then if k.required then none else some none else some (some k)

/-- Forget all possible keys from which the text has gone too far. -/
def dropStaleKeys : Lex Unit := do
  let l ← get
  let possible ← StateT.lift (dropStale l.cursor l.possible)
  let outerKeys ← StateT.lift (l.outerKeys.mapM (dropStale l.cursor))
  set { l with possible, outerKeys }

/-! ## Indentation -/

/-- Is a column deeper than an indentation? -/
def isDeeper (column : Nat) : Option Nat → Bool
  | none => true
  | some i => i < column

/-- Begin a block collection at a column, unless the place is in one of that indentation. Its token
goes behind the first `position` ones. -/
def indentTo (column position : Nat) (t : Token) : Lex Unit := do
  let l ← get
  if l.outerKeys.isEmpty && isDeeper column l.indent then
    set { l with indent := some column, outer := l.indent :: l.outer }
    insertAt position t

/-- The collections that are left when those are ended that are indented more than a column, or all
if there is none: those around, the innermost one, and how many were ended. -/
def ended (column : Option Nat) : (outer : List (Option Nat)) → (indent : Option Nat) → (n : Nat) →
    List (Option Nat) × Option Nat × Nat
  | [], indent, n => ([], indent, n)
  | above :: outer, indent, n =>
    if (indent.map fun i => (column.map fun c => decide (c < i)).getD true).getD false then
      ended column outer above (n + 1)
    else (above :: outer, indent, n)

/-- End the block collections that are indented more than a column, or all of them. -/
def outdentTo (column : Option Nat) : Lex Unit := do
  let l ← get
  if l.outerKeys.isEmpty then
    let (outer, indent, n) := ended column l.outer l.indent 0
    set { l with indent, outer, tokens := l.tokens ++ List.replicate n Token.blockEnd }

/-! ## Marks -/

/-- A mark of a document's start or end. -/
def documentMark (t : Token) : Lex Unit := do
  outdentTo none
  dropKey
  allowKey false
  scan (Scan.skip 3)
  emit t

/-- An opening bracket. -/
def openFlow (t : Token) : Lex Unit := do
  noteKey
  modify fun l =>
    { l with outerKeys := l.possible :: l.outerKeys, possible := none, keyAllowed := true }
  scan (Scan.skip 1)
  emit t

/-- A closing bracket. -/
def closeFlow (t : Token) : Lex Unit := do
  dropKey
  modify fun l =>
    match l.outerKeys with
    | [] => { l with keyAllowed := false }
    | k :: outer => { l with possible := k, outerKeys := outer, keyAllowed := false }
  scan (Scan.skip 1)
  emit t

/-- A comma between brackets. -/
def commaMark : Lex Unit := do
  dropKey
  allowKey true
  scan (Scan.skip 1)
  emit .comma

/-- The dash before an item of a block list, or the mark before a key that is told by it. -/
def blockMark (begins mark : Token) : Lex Unit := do
  if !(← inFlow) then
    if !(← get).keyAllowed then fail
    indentTo (← column) (← get).tokens.length begins
  dropKey
  allowKey (mark = .entry || !(← inFlow))
  scan (Scan.skip 1)
  emit mark

/-- The colon behind a key, or one before which no key stands. -/
def colonMark : Lex Unit := do
  match (← get).possible with
  | some k =>
    insertAt k.tokens .key
    indentTo k.column k.tokens .blockMap
    modify fun l => { l with possible := none, keyAllowed := false }
  | none =>
    if !(← inFlow) then
      if !(← get).keyAllowed then fail
      indentTo (← column) (← get).tokens.length .blockMap
    allowKey !(← inFlow)
  scan (Scan.skip 1)
  emit .value

/-! ## Names -/

/-- The characters of the names of anchors. -/
def isNameChar (c : Char) : Bool :=
  c.isAlphanum || c = '_' || c = '-'

/-- The name of an anchor or alias, from its mark on. -/
def anchorName : Scan String := do
  Scan.skip 1
  let name ← Scan.takeWhile isNameChar
  let rest ← Scan.rest
  let ends := startsBlank rest || (rest.head?.map "?:,]\x7d%@\x60".toList.contains).getD false
  if name.isEmpty || !ends then Scan.fail else pure (String.ofList name)

/-- The characters of tags; within `<` and `>` there may be more. -/
def isTagChar (verbatim : Bool) (c : Char) : Bool :=
  isNameChar c || ";/?:@&=+$.%!~*'()".toList.contains c || (verbatim && ",[]".toList.contains c)

/-- A tag: its handle and what stands behind that. -/
def tagParts : Scan (String × String) := do
  let rest ← Scan.rest
  let (handle, suffix) ← match rest with
    | '!' :: '<' :: _ =>
      Scan.skip 2
      let suffix ← Scan.takeWhile (isTagChar true)
      if suffix.isEmpty || (← Scan.next?) ≠ some '>' then Scan.fail
      Scan.skip 1
      pure ([], suffix)
    | _ =>
      Scan.skip 1
      let name := (← Scan.rest).takeWhile isNameChar
      if ((← Scan.rest).drop name.length).head? = some '!' then
        Scan.skip (name.length + 1)
        let suffix ← Scan.takeWhile (isTagChar false)
        if suffix.isEmpty then Scan.fail
        pure ('!' :: name ++ ['!'], suffix)
      else
        let suffix ← Scan.takeWhile (isTagChar false)
        pure (if suffix.isEmpty then ([], ['!']) else (['!'], suffix))
  if startsBlank (← Scan.rest) || (← Scan.next?) = some ',' then
    pure (String.ofList handle, String.ofList suffix)
  else Scan.fail

/-- A directive: its name and what it says. -/
def directiveParts : Scan (String × String) := do
  Scan.skip 1
  let name ← Scan.takeWhile isNameChar
  let _ ← Scan.takeWhile isBlank
  let argument ← Scan.takeWhile fun c => !isBreak c && c ≠ '#'
  restOfLine
  if name = "YAML".toList || name = "TAG".toList then
    pure (String.ofList name, String.ofList argument)
  else Scan.fail

/-! ## Tokens in turn -/

/-- Go over blanks, comments and ends of lines to the next token. -/
def toNextToken : (fuel : Nat) → Lex Unit
  | 0 => pure ()
  | n + 1 => do
    if (← column) = 0 && (← scan Scan.next?) = some '\uFEFF' then scan (Scan.skip 1)
    let tabs := (← inFlow) || !(← get).keyAllowed
    let _ ← scan (Scan.takeWhile fun c => c = ' ' || (tabs && c = '\t'))
    if (← scan Scan.next?) = some '#' then
      let _ ← scan (Scan.takeWhile fun c => !isBreak c)
    match ← scan Scan.next? with
    | some c =>
      if isBreak c then
        let _ ← scan Scan.lineEnd
        if !(← inFlow) then allowKey true
        toNextToken n
    | none => pure ()

/-- The characters with which no plain scalar begins. -/
def isIndicator (c : Char) : Bool :=
  "-?:,[]\x7b\x7d#&*!|>'\"%@\x60".toList.contains c

/-- Read a token that holds a text, which may be a key. -/
def textToken (s : Scan Token) : Lex Unit := do
  noteKey
  allowKey false
  emit (← scan s)

/-- Read the token at a character. -/
def tokenAt (c : Char) (rest : List Char) : Lex Unit := do
  let flow ← inFlow
  let blankNext := startsBlank rest
  if (← column) = 0 && c = '%' then
    outdentTo none
    dropKey
    allowKey false
    let (name, argument) ← scan directiveParts
    emit (.directive name argument)
  else if ← scan Scan.atDocumentMark then
    documentMark (if c = '-' then .documentStart else .documentEnd)
  else if c = '[' then openFlow .flowList
  else if c = '\x7b' then openFlow .flowMap
  else if c = ']' then closeFlow .flowListEnd
  else if c = '\x7d' then closeFlow .flowMapEnd
  else if c = ',' then commaMark
  else if c = '-' && blankNext then blockMark .blockList .entry
  else if c = '?' && (flow || blankNext) then blockMark .blockMap .key
  else if c = ':' && (flow || blankNext) then colonMark
  else if c = '*' then textToken (Token.alias <$> anchorName)
  else if c = '&' then textToken (Token.anchor <$> anchorName)
  else if c = '!' then textToken ((fun (h, s) => Token.tag h s) <$> tagParts)
  else if (c = '|' || c = '>') && !flow then
    dropKey
    allowKey true
    let text ← scan (block (c = '|') (← get).indent)
    emit (.scalar text (if c = '|' then .literal else .folded))
  else if c = '\'' || c = '"' then
    textToken ((fun t => Token.scalar t .quoted) <$> quotedScalar (c = '\''))
  else if (!isBlank c && !isIndicator c) || (c = '-' && !((rest.head?.map isBlank).getD false)) ||
      (!flow && (c = '?' || c = ':') && !blankNext) then
    noteKey
    allowKey false
    let (text, broken) ← scan (plain flow (((← get).indent.map (· + 1)).getD 0))
    emit (.scalar text .plain)
    if broken then allowKey true
  else fail

/-- Read all tokens. -/
def tokens : (fuel : Nat) → Lex Unit
  | 0 => fail
  | n + 1 => do
    toNextToken ((← scan Scan.rest).length + 1)
    dropStaleKeys
    outdentTo (some (← column))
    match ← scan Scan.rest with
    | c :: rest =>
      tokenAt c rest
      tokens n
    | [] =>
      outdentTo none
      dropKey

end Lex

/-- The tokens of a text, none if it is malformed. -/
def Token.ofText? (text : String) : Option (List Token) := do
  let cs := text.toList
  if !(cs.all isAllowed) then none
  else
    let (_, l) ← (Lex.tokens (cs.length + 1)).run { cursor := { rest := cs } }
    pure l.tokens

end ClusterVolumes.Yaml
