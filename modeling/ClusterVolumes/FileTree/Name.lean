/-!
# Names of files

A system takes any bytes for a name. Most names are the bytes of a text, and a path can only lead to what has such a
name; any other name is met where a folder is listed. Names are compared byte by byte (`FileName.written`).

- `FileName.rising` sorts what has names by them.
-/

namespace ClusterVolumes

/-- The bytes in which a text is written. -/
def Text.bytes (s : String) : List UInt8 :=
  s.toUTF8.data.toList

/-- The name of an entry of a folder: a text, or bytes in which no text is written. -/
inductive FileName
  | text (name : String)
  | bytes (bytes : List UInt8) (untold : bytes.toByteArray.validateUTF8 = false)
  deriving DecidableEq

namespace FileName

instance : Coe String FileName := ⟨text⟩

/-- The text of a name, if it has one. -/
def text? : FileName → Option String
  | text name => some name
  | bytes .. => none

/-- The bytes of a name. -/
def written : FileName → List UInt8
  | text name => Text.bytes name
  | bytes b _ => b

/-- The length of a name, in bytes. -/
def size : FileName → Nat
  | text name => name.utf8ByteSize
  | bytes b _ => b.length

/-! ## Rising order -/

/-- Put something into a list before the first element that may stand behind it. -/
def insert {α : Type} (before : α → α → Bool) (a : α) : List α → List α
  | [] => [a]
  | b :: l => if before a b then a :: b :: l else b :: insert before a l

/-- The elements of a list, sorted by the names that each of them has, name for name. -/
def rising {α : Type} (names : α → List FileName) (l : List α) : List α :=
  l.foldr (insert fun a b => decide ((names a).map written ≤ (names b).map written)) []

end FileName

end ClusterVolumes
