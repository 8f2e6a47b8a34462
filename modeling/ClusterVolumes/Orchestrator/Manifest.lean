import ClusterVolumes.Json.Codec

/-!
# Manifests

The objects of a container orchestrator in their JSON form. Reading is lenient: a member that names
no field is skipped, of members with one key the last one counts, and null stands for a missing
member. Writing leaves out what is missing.

- `Record.manifest` reads and writes a part of an object;
- `Record.topLevel` reads and writes a whole object, which also says what version and kind it is of.
-/

namespace ClusterVolumes

namespace Codec

variable {α : Type}

/-- A value, or a default for null. -/
def orDefault (c : Codec α) (default : α) : Codec α where
  encode := c.encode
  decode room
    | .null => .ok default
    | j => c.decode room j

/-- A map from texts. -/
def textMap (c : Codec α) : Codec (TextMap α) where
  encode m := Json.record (m.entries.map fun (k, v) => (k, c.encode v))
  decode
    | 0, .obj _ => .error .notJson
    | room + 1, .obj members => decodeEntries c room (fun k v m => m.insert k v) members ∅
    | _, j => .error (faultOf j)

end Codec

namespace Field

variable {σ α : Type}

/-- A part that is always written and has a default when it is missing. -/
def defaulted (name : String) (c : Codec α) (default : α) (get : σ → α) (set : α → σ → σ) :
    Field σ :=
  .of name (c.orDefault default) get set

/-- A member with one possible text. -/
def exactly (name text : String) : Field σ where
  name := name
  required := false
  encode _ := some (Json.text text)
  decode
    | _, .str (some s), x => if s = text then .ok x else .error .mismatch
    | _, j, _ => .error (Codec.faultOf j)

/-- Parts that are carried along as they are. -/
def carried (names : List String) (get : σ → List (String × Json))
    (set : List (String × Json) → σ → σ) :
    List (Field σ) :=
  names.map fun name =>
    .optional name .any (fun s => (get s).lookup name) fun j s =>
      set ((get s).filter (fun m => m.1 ≠ name) ++ (j.map fun j => (name, j)).toList) s

end Field

namespace Record

variable {σ : Type}

/-- Read the members of a manifest into a structure. -/
def decodeManifest (r : Record σ) (room : Nat) : List (Option String × Json) → σ → Decoded σ
  | [], s => .ok s
  | (none, _) :: _, _ => .error .notJson
  | (some k, j) :: ms, s =>
    match r.fields.find? fun f => f.name = k with
    | none => if j.isIntact then decodeManifest r room ms s else .error .notJson
    | some f => do decodeManifest r room ms (← f.decode room j s)

/-- A structure as a part of a manifest. -/
def manifest (r : Record σ) : Codec σ where
  encode s := Json.record (r.members s)
  decode
    | 0, .obj _ => .error .notJson
    | room + 1, .obj members => decodeManifest r room members r.start
    | _, j => .error (Codec.faultOf j)

/-- A structure as a manifest of a version and kind. -/
def topLevel (r : Record σ) (version kind : String) : Codec σ :=
  manifest { r with fields := .exactly "apiVersion" version :: .exactly "kind" kind :: r.fields }

end Record

end ClusterVolumes
