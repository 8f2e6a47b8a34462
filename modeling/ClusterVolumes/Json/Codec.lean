import ClusterVolumes.Json.Numeral
import ClusterVolumes.TextMap

/-!
# Typed reading and writing of JSON

A `Codec` writes values of a type as JSON and reads them back. Readers meet the parts of a value in
the order in which they stand and stop at the first fault, which is one of two kinds: the text is no
JSON there, or it is JSON but not of the type. A reader is told for how many more containers there
is room; `127` may be nested.

A `Field` is a named part of a structure and `Record.codec` reads and writes a structure by its
fields. An object may have members that name no field; a member that names one must not be repeated,
and one that is missing keeps the value that the structure starts with unless it is required. A list
may stand for an object: its items are the fields in order.
-/

namespace ClusterVolumes

/-- Why a text is not read as a value of a type. -/
inductive DecodeFault
  | notJson
  | mismatch
  deriving DecidableEq, Repr

/-- What a reader makes of a value. -/
abbrev Decoded := Except DecodeFault

/-- Writing and reading values of a type. -/
structure Codec (α : Type) where
  encode : α → Json
  decode : Nat → Json → Decoded α

namespace Codec

variable {α β : Type}

/-- How many containers may be nested. -/
def maxDepth : Nat := 127

/-- The fault of a value that is not of the type that is wanted: a value that is broken off or has
no characters is no JSON to a reader who looks at it, and so is a number that is too great. -/
def faultOf : Json → DecodeFault
  | .broken => .notJson
  | .str none => .notJson
  | j@(.nat _) => if j.numeral?.isSome then .mismatch else .notJson
  | j@(.decimal _) => if j.numeral?.isSome then .mismatch else .notJson
  | _ => .mismatch

/-- A whole text, read as a value. -/
def ofText (c : Codec α) (s : String) : Decoded α := do
  let (j, ended) := Json.readAll s
  let a ← c.decode maxDepth j
  if ended then pure a else throw .notJson

/-- A value that was read before. -/
def ofJson (c : Codec α) (j : Json) : Decoded α :=
  c.decode maxDepth j

/-! ## Simple values -/

/-- A truth value. -/
def bool : Codec Bool where
  encode := .bool
  decode _
    | .bool b => .ok b
    | j => .error (faultOf j)

/-- A text. -/
def text : Codec String where
  encode := Json.text
  decode _
    | .str (some s) => .ok s
    | j => .error (faultOf j)

/-- A natural number up to a limit. -/
def natUpTo (limit : Nat) : Codec Nat where
  encode := .nat
  decode _
    | .nat n => if n ≤ limit then .ok n else .error (faultOf (.nat n))
    | j => .error (faultOf j)

/-- A number of 64 bits. -/
def word64 : Codec UInt64 where
  encode n := .nat n.toNat
  decode room j := (natUpTo (UInt64.size - 1)).decode room j |>.map UInt64.ofNat

/-- A number of 32 bits. -/
def word32 : Codec UInt32 where
  encode n := .nat n.toNat
  decode room j := (natUpTo (UInt32.size - 1)).decode room j |>.map UInt32.ofNat

/-- A number of 16 bits. -/
def word16 : Codec UInt16 where
  encode n := .nat n.toNat
  decode room j := (natUpTo (UInt16.size - 1)).decode room j |>.map UInt16.ofNat

/-- A value or null. -/
def option (c : Codec α) : Codec (Option α) where
  encode
    | some a => c.encode a
    | none => .null
  decode room
    | .null => .ok none
    | j => (c.decode room j).map some

/-! ## Containers -/

/-- Read the items of a list in turn. -/
def decodeItems (c : Codec α) (room : Nat) : List Json → Decoded (List α)
  | [] => .ok []
  | j :: js => do
    let a ← c.decode room j
    let as ← decodeItems c room js
    pure (a :: as)

/-- A list. -/
def list (c : Codec α) : Codec (List α) where
  encode as := .arr (as.map c.encode)
  decode
    | 0, .arr _ => .error .notJson
    | room + 1, .arr items => decodeItems c room items
    | _, j => .error (faultOf j)

/-- Read the members of an object in turn, a later one in place of an earlier one with the same
key. -/
def decodeEntries (c : Codec α) (room : Nat) (put : String → α → β → β) :
    List (Option String × Json) → β → Decoded β
  | [], b => .ok b
  | (none, _) :: _, _ => .error .notJson
  | (some k, j) :: ms, b => do
    let a ← c.decode room j
    decodeEntries c room put ms (put k a b)

/-- A map from texts to texts. -/
def stringMap : Codec StringMap where
  encode m := Json.record (m.entries.map fun (k, v) => (k, Json.text v))
  decode
    | 0, .obj _ => .error .notJson
    | room + 1, .obj members => decodeEntries text room (fun k v m => m.insert k v) members ∅
    | _, j => .error (faultOf j)

/-! ## Any value -/

/-- Put a value under a key of a rising list, in place of the one that was there. -/
def putMember (key : String) (j : Json) : List (Option String × Json) → List (Option String × Json)
  | [] => [(some key, j)]
  | m :: ms =>
    match m.1 with
    | none => m :: putMember key j ms
    | some k =>
      if key < k then (some key, j) :: m :: ms
      else if key = k then (some key, j) :: ms
      else m :: putMember key j ms

mutual

/-- Any value, with its objects in rising order of their keys and its numbers as they are shown. -/
def decodeAny (room : Nat) : Json → Decoded Json
  | .null => .ok .null
  | .bool b => .ok (.bool b)
  | .nat n =>
    match (Json.nat n).numeral? with
    | none => .error .notJson
    | some literal => .ok (if n ≤ Json.maxWord then .nat n else .decimal literal)
  | .decimal s =>
    match (Json.decimal s).numeral? with
    | none => .error .notJson
    | some literal => .ok (.decimal literal)
  | .str (some s) => .ok (Json.text s)
  | .str none => .error .notJson
  | .arr items => if room = 0 then .error .notJson else (anyItems (room - 1) items).map .arr
  | .obj members => if room = 0 then .error .notJson
      else (anyMembers (room - 1) members []).map .obj
  | .broken => .error .notJson

/-- The items of a list of any values. -/
def anyItems (room : Nat) : List Json → Decoded (List Json)
  | [] => .ok []
  | j :: js => do
    let a ← decodeAny room j
    let as ← anyItems room js
    pure (a :: as)

/-- The members of an object of any values. -/
def anyMembers (room : Nat) : List (Option String × Json) → List (Option String × Json) →
    Decoded (List (Option String × Json))
  | [], done => .ok done
  | (none, _) :: _, _ => .error .notJson
  | (some k, j) :: ms, done => do
    let a ← decodeAny room j
    anyMembers room ms (putMember k a done)

end

/-- Any value. -/
def any : Codec Json where
  encode j := j
  decode := decodeAny

/-! ## Constants -/

/-- One of finitely many constants, given by its name or as an object with the name for its only key
and null under it. -/
def constant [DecidableEq α] (names : List (α × String)) : Codec α where
  encode a := Json.text (((names.find? fun p => p.1 = a).map Prod.snd).getD "")
  decode
    | _, .str (some s) => named s
    | 0, .obj _ => .error .notJson
    | _, .obj ((some s, j) :: rest) => do
      let a ← named s
      match j with
      | .null => if rest.isEmpty then pure a else throw .notJson
      | j => throw (faultOf j)
    | _, _ => .error .notJson
where
  /-- The constant with a name. -/
  named (s : String) : Decoded α :=
    match names.find? fun p => p.2 = s with
    | some (a, _) => .ok a
    | none => .error .mismatch

end Codec

/-! ## Structures -/

/-- A named part of a structure: how it is written, none if it is left out, and how it is read into
the structure. -/
structure Field (σ : Type) where
  name : String
  required : Bool
  encode : σ → Option Json
  decode : Nat → Json → σ → Decoded σ

/-- A part that is always written. -/
def Field.of {σ α : Type} (name : String) (c : Codec α) (get : σ → α) (set : α → σ → σ) :
    Field σ where
  name := name
  required := false
  encode s := some (c.encode (get s))
  decode room j s := (c.decode room j).map fun a => set a s

/-- The same part, which must not be missing. -/
def Field.must {σ : Type} (f : Field σ) : Field σ :=
  { f with required := true }

/-- A part that is left out when it is none. -/
def Field.optional {σ α : Type} (name : String) (c : Codec α) (get : σ → Option α)
    (set : Option α → σ → σ) :
    Field σ where
  name := name
  required := false
  encode s := (get s).map c.encode
  decode room j s := (c.option.decode room j).map fun a => set a s

/-- A structure by its fields, and the value with which reading starts. -/
structure Record (σ : Type) where
  start : σ
  fields : List (Field σ)

namespace Record

variable {σ : Type}

/-- Read the members of an object into a structure; `seen` holds the names of the fields that were
met. -/
def decodeMembers (r : Record σ) (room : Nat) : List (Option String × Json) → List String → σ →
    Decoded σ
  | [], seen, s =>
    if r.fields.all fun f => !f.required || seen.contains f.name then .ok s else .error .mismatch
  | (none, _) :: _, _, _ => .error .notJson
  | (some k, j) :: ms, seen, s =>
    match r.fields.find? fun f => f.name = k with
    | none => if j.isIntact then decodeMembers r room ms seen s else .error .notJson
    | some f =>
      if seen.contains k then .error .mismatch
      else do decodeMembers r room ms (k :: seen) (← f.decode room j s)

/-- Read the items of a list into the fields of a structure. -/
def decodeFields (room : Nat) : List (Field σ) → List Json → σ → Decoded σ
  | [], [], s => .ok s
  | [], _ :: _, _ => .error .notJson
  | f :: fs, [], s => if f.required then .error .mismatch else decodeFields room fs [] s
  | f :: fs, j :: js, s => do decodeFields room fs js (← f.decode room j s)

/-- The members of the object that a structure is written as. -/
def members (r : Record σ) (s : σ) : List (String × Json) :=
  r.fields.filterMap fun f => (f.encode s).map fun j => (f.name, j)

/-- A structure as an object of its fields. -/
def codec (r : Record σ) : Codec σ where
  encode s := Json.record (r.members s)
  decode
    | 0, .obj _ => .error .notJson
    | 0, .arr _ => .error .notJson
    | room + 1, .obj members => decodeMembers r room members [] r.start
    | room + 1, .arr items => decodeFields room r.fields items r.start
    | _, j => .error (Codec.faultOf j)

end Record

end ClusterVolumes
