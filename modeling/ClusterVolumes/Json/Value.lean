import ClusterVolumes.Text.Quoted

/-!
# JSON values as they are read

A value keeps what a later reader of it may ask: the members of an object in their order, with
repeated keys, and a number that is no natural number as it was written. A text that holds an
unpaired surrogate has no characters, so it stands as `str none`, and the same goes for a key. Where
the text stops being JSON the value says `broken`: what was read before that point is still there,
so a reader meets faults in the order in which they stand.

- `Json.isIntact`: there is nothing broken in the value;
- `Json.depth`: how deep lists and objects are nested;
- `Json.render`: the text of a value, without spaces.
-/

namespace ClusterVolumes

/-- A JSON value, perhaps broken off. -/
inductive Json
  | null
  | bool (b : Bool)
  | nat (n : Nat)
  | decimal (literal : String)
  | str (s : Option String)
  | arr (items : List Json)
  | obj (members : List (Option String × Json))
  | broken
  deriving Repr, Inhabited

namespace Json

/-- A text as a value. -/
def text (s : String) : Json := .str (some s)

/-- An object with the given members. -/
def record (members : List (String × Json)) : Json :=
  .obj (members.map fun (k, v) => (some k, v))

/-- A text, or null for none. -/
def optText : Option String → Json
  | some s => text s
  | none => null

/-- A list of texts. -/
def texts (l : List String) : Json :=
  .arr (l.map text)

mutual

/-- There is nothing broken in the value. -/
def isIntact : Json → Bool
  | .broken => false
  | .arr items => itemsIntact items
  | .obj members => membersIntact members
  | _ => true

/-- There is nothing broken in the items. -/
def itemsIntact : List Json → Bool
  | [] => true
  | j :: js => j.isIntact && itemsIntact js

/-- There is nothing broken in the members. -/
def membersIntact : List (Option String × Json) → Bool
  | [] => true
  | (_, j) :: ms => j.isIntact && membersIntact ms

end

mutual

/-- How deep lists and objects are nested. -/
def depth : Json → Nat
  | .arr items => itemsDepth items + 1
  | .obj members => membersDepth members + 1
  | _ => 0

/-- The greatest depth of the items. -/
def itemsDepth : List Json → Nat
  | [] => 0
  | j :: js => max j.depth (itemsDepth js)

/-- The greatest depth of the members. -/
def membersDepth : List (Option String × Json) → Nat
  | [] => 0
  | (_, j) :: ms => max j.depth (membersDepth ms)

end

/-! ## Writing -/

/-- A character inside a JSON text. -/
def escapeChar (c : Char) : String :=
  if c = '"' then "\\\""
  else if c = '\\' then "\\\\"
  else if c = '\n' then "\\n"
  else if c = '\r' then "\\r"
  else if c = '\t' then "\\t"
  else if c.toNat = 8 then "\\b"
  else if c.toNat = 12 then "\\f"
  else if c.toNat < 16 then "\\u000" ++ Text.hex c.toNat
  else if c.toNat < 32 then "\\u00" ++ Text.hex c.toNat
  else String.singleton c

/-- A text in JSON, an unpaired surrogate standing for a text without characters. -/
def renderText : Option String → String
  | some s => "\"" ++ String.ofList (s.toList.flatMap fun c => (escapeChar c).toList) ++ "\""
  | none => "\"\\ud800\""

mutual

/-- The text of a value. -/
def render : Json → String
  | .null => "null"
  | .bool true => "true"
  | .bool false => "false"
  | .nat n => toString n
  | .decimal literal => literal
  | .str s => renderText s
  | .arr items => "[" ++ renderItems items ++ "]"
  | .obj members => "\x7b" ++ renderMembers members ++ "\x7d"
  | .broken => ""

/-- The texts of the items with commas between them. -/
def renderItems : List Json → String
  | [] => ""
  | [j] => j.render
  | j :: js => j.render ++ "," ++ renderItems js

/-- The texts of the members with commas between them. -/
def renderMembers : List (Option String × Json) → String
  | [] => ""
  | [(k, j)] => renderText k ++ ":" ++ j.render
  | (k, j) :: ms => renderText k ++ ":" ++ j.render ++ "," ++ renderMembers ms

end

/-! ## Looking up -/

/-- The value under the last member with a key. -/
def member? (key : String) : Json → Option Json
  | .obj members => (members.reverse.find? fun m => m.1 == some key).map Prod.snd
  | _ => none

end Json

end ClusterVolumes
