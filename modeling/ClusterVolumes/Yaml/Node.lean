import ClusterVolumes.Yaml.Token

/-!
# YAML documents as trees

A document is a scalar, a list or a map of nodes. `Node.ofText?` reads a text that holds at most one
document. A node can be given a name by an anchor, and an alias stands for the last node of its
name.
-/

namespace ClusterVolumes.Yaml

/-- A node of a document. -/
inductive Node
  | scalar (text : String) (style : Style) (tag : Option String)
  | list (items : List Node)
  | map (entries : List (Node × Node))
  deriving Repr, Inhabited

namespace Node

/-- What stands where nothing is written. -/
def nothing : Node := .scalar "" .plain none

/-- The tag of missing values. -/
def nullTag : String := "tag:yaml.org,2002:null"

/-- The tag of truth values. -/
def boolTag : String := "tag:yaml.org,2002:bool"

/-- Does a scalar stand for no value? None is told for one that says so by its tag but not by its
text. -/
def isNull? : Node → Option Bool
  | .scalar text .plain tag =>
    let isNull := text ∈ ["null", "Null", "NULL", "~"]
    match tag with
    | none => some (isNull || text.isEmpty)
    | some t => if t = nullTag then (if isNull then some true else none) else some false
  | _ => some false

/-- The text of a scalar. -/
def text? : Node → Option String
  | .scalar text _ _ => some text
  | _ => none

/-- The truth value that a scalar writes, which is plain, or literal and tagged as one. -/
def bool? : Node → Option Bool
  | .scalar text style tag =>
    if style ≠ .plain && !(style = .literal && tag = some boolTag) then none
    else if text ∈ ["true", "True", "TRUE"] then some true
    else if text ∈ ["false", "False", "FALSE"] then some false
    else none
  | _ => none

/-- The items of a list; nothing stands for one without any. -/
def items? : Node → Option (List Node)
  | .list items => some items
  | .scalar "" .plain _ => some []
  | _ => none

/-- The entries of a map by their keys, which must be texts; nothing stands for one without any. -/
def entries? : Node → Option (List (String × Node))
  | .map entries => entries.mapM fun (k, v) => do pure (← k.text?, v)
  | .scalar "" .plain _ => some []
  | _ => none

end Node

/-! ## From tokens to trees -/

/-- What a parser knows: the tokens that are left, the nodes with names, and what the handles of
tags stand for. -/
structure Parser where
  tokens : List Token
  anchors : List (String × Node) := []
  handles : List (String × String) := []

/-- Some work of a parser on tokens, which may be no document. -/
abbrev Parse (α : Type) : Type := StateT Parser Option α

namespace Parse

/-- The tokens are no document. -/
def fail {α : Type} : Parse α :=
  StateT.lift none

/-- The next token. -/
def next? : Parse (Option Token) := do
  pure (← get).tokens.head?

/-- Go over a token. -/
def skip : Parse Unit :=
  modify fun p => { p with tokens := p.tokens.tail }

/-- What the properties of a node say: its name and its tag. -/
structure Properties where
  anchor : Option String := none
  tag : Option String := none

/-- The tag that a handle and a suffix stand for. -/
def resolveTag (handle suffix : String) : Parse String := do
  if handle.isEmpty then pure suffix
  else
    match (← get).handles.lookup handle with
    | some start => pure (start ++ suffix)
    | none =>
      if handle = "!!" then pure ("tag:yaml.org,2002:" ++ suffix)
      else if handle = "!" then pure ("!" ++ suffix)
      else fail

/-- The properties before a node. -/
def properties : (fuel : Nat) → Properties → Parse Properties
  | 0, p => pure p
  | n + 1, p => do
    match ← next?, p.anchor, p.tag with
    | some (.anchor name), none, _ =>
      skip
      properties n { p with anchor := some name }
    | some (.tag handle suffix), _, none =>
      skip
      properties n { p with tag := some (← resolveTag handle suffix) }
    | _, _, _ => pure p

/-- Remember a node under its name. -/
def remember (p : Properties) (node : Node) : Parse Node := do
  match p.anchor with
  | some name => modify fun s => { s with anchors := (name, node) :: s.anchors }
  | none => pure ()
  pure node

/-- Does the next token end a part without a node? -/
def endsPart (ends : List Token) : Parse Bool := do
  match ← next? with
  | some t => pure (ends.contains t)
  | none => pure false

mutual

/-- Read a node. A block collection may only stand where `inBlock` allows, and a list at the
indentation of the map around it only where `loose` allows. -/
def node (inBlock loose : Bool) : (fuel : Nat) → Parse Node
  | 0 => fail
  | n + 1 => do
    match ← next? with
    | some (.alias name) =>
      skip
      StateT.lift ((← get).anchors.lookup name)
    | _ =>
      let p ← properties 2 {}
      match ← next? with
      | some (.scalar text style) =>
        skip
        remember p (.scalar text style p.tag)
      | some .flowList =>
        skip
        remember p (.list (← flowItems true n))
      | some .flowMap =>
        skip
        remember p (.map (← flowEntries true n))
      | t =>
        if loose && t = some .entry then remember p (.list (← looseItems n))
        else if inBlock && t = some .blockList then
          skip
          remember p (.list (← blockItems n))
        else if inBlock && t = some .blockMap then
          skip
          remember p (.map (← blockEntries n))
        else if p.anchor.isSome || p.tag.isSome then remember p (.scalar "" .plain p.tag)
        else fail

/-- Read a node, or nothing before some tokens. -/
def nodeUnless (ends : List Token) (inBlock loose : Bool) : (fuel : Nat) → Parse Node
  | 0 => fail
  | n + 1 => do if ← endsPart ends then pure .nothing else node inBlock loose n

/-- Read the items of a block list to its end. -/
def blockItems : (fuel : Nat) → Parse (List Node)
  | 0 => fail
  | n + 1 => do
    match ← next? with
    | some .entry =>
      skip
      let item ← nodeUnless [.entry, .blockEnd] true false n
      pure (item :: (← blockItems n))
    | some .blockEnd =>
      skip
      pure []
    | _ => fail

/-- Read the items of a list that has the indentation of the map around it. -/
def looseItems : (fuel : Nat) → Parse (List Node)
  | 0 => fail
  | n + 1 => do
    match ← next? with
    | some .entry =>
      skip
      let item ← nodeUnless [.entry, .key, .value, .blockEnd] true false n
      pure (item :: (← looseItems n))
    | _ => pure []

/-- Read the entries of a block map to its end. -/
def blockEntries : (fuel : Nat) → Parse (List (Node × Node))
  | 0 => fail
  | n + 1 => do
    let ends : List Token := [.key, .value, .blockEnd]
    let key ← match ← next? with
      | some .key => do
        skip
        some <$> nodeUnless ends true true n
      | some .value => pure (some .nothing)
      | some .blockEnd => do
        skip
        pure none
      | _ => fail
    match key with
    | none => pure []
    | some k =>
      let value ← if (← next?) = some .value then do
          skip
          nodeUnless ends true true n
        else pure .nothing
      pure ((k, value) :: (← blockEntries n))

/-- Read the value of a pair between brackets, nothing if there is none. -/
def flowValue (close : Token) : (fuel : Nat) → Parse Node
  | 0 => fail
  | n + 1 => do
    if (← next?) = some .value then
      skip
      nodeUnless [.comma, close] false false n
    else pure .nothing

/-- Read the items of a list between brackets to its end. -/
def flowItems (first : Bool) : (fuel : Nat) → Parse (List Node)
  | 0 => fail
  | n + 1 => do
    if (← next?) = some .flowListEnd then
      skip
      pure []
    else
      if !first then
        if (← next?) = some .comma then skip else fail
      match ← next? with
      | some .flowListEnd =>
        skip
        pure []
      | some .key =>
        skip
        let k ← nodeUnless [.value, .comma, .flowListEnd] false false n
        let v ← flowValue .flowListEnd n
        pure (.map [(k, v)] :: (← flowItems false n))
      | _ =>
        let item ← node false false n
        pure (item :: (← flowItems false n))

/-- Read the entries of a map between brackets to its end. -/
def flowEntries (first : Bool) : (fuel : Nat) → Parse (List (Node × Node))
  | 0 => fail
  | n + 1 => do
    if (← next?) = some .flowMapEnd then
      skip
      pure []
    else
      if !first then
        if (← next?) = some .comma then skip else fail
      match ← next? with
      | some .flowMapEnd =>
        skip
        pure []
      | some .key =>
        skip
        let k ← nodeUnless [.value, .comma, .flowMapEnd] false false n
        let v ← flowValue .flowMapEnd n
        pure ((k, v) :: (← flowEntries false n))
      | _ =>
        let k ← node false false n
        pure ((k, .nothing) :: (← flowEntries false n))

end

/-! ## Documents -/

/-- Is a version of YAML one that is read? -/
def isVersion (s : String) : Bool :=
  (s.toList.filter fun c => !isBlank c) ∈ ["1.1".toList, "1.2".toList]

/-- Read the directives before a document, and tell whether there are any. -/
def directives : (fuel : Nat) → (versioned : Bool) → Parse Bool
  | 0, _ => fail
  | n + 1, versioned => do
    match ← next? with
    | some (.directive "YAML" version) =>
      if versioned || !isVersion version then fail
      else
        skip
        let _ ← directives n true
        pure true
    | some (.directive _ argument) =>
      skip
      match (argument.splitOn " ").filter fun s => !s.isEmpty with
      | [handle, start] =>
        if ((← get).handles.lookup handle).isSome then fail
        modify fun p => { p with handles := (handle, start) :: p.handles }
        let _ ← directives n versioned
        pure true
      | _ => fail
    | _ => pure false

/-- Go over the marks of documents' ends. -/
def documentEnds : Parse Unit :=
  modify fun p => { p with tokens := p.tokens.dropWhile (· = .documentEnd) }

/-- Read a text's only document, none if there is none. -/
def document : Parse (Option Node) := do
  let size := (← get).tokens.length
  if size = 0 then pure none
  else
    let directed ← directives size false
    let marked := (← next?) = some .documentStart
    if directed && !marked then fail
    if marked then skip
    let ended := match ← next? with
      | none | some .documentStart | some .documentEnd | some (.directive ..) => true
      | _ => false
    let node ← if marked && ended then pure .nothing else node true false (4 * size + 4)
    documentEnds
    if (← get).tokens.isEmpty then pure (some node) else fail

end Parse

/-- The document of a text, which is nothing if the text holds none; none if the text is malformed
or holds more than one. -/
def Node.ofText? (text : String) : Option Node := do
  let tokens ← Token.ofText? text
  let (node, _) ← Parse.document.run { tokens }
  pure (node.getD .nothing)

end ClusterVolumes.Yaml
