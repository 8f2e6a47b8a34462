/-!
# Values kept under keys

A store that is only ever asked key by key is a function. `Keyed.put` changes it at one key.
-/

namespace ClusterVolumes

/-- What is kept under each key, if anything. -/
abbrev Keyed (κ α : Type) : Type := κ → Option α

namespace Keyed

variable {κ α : Type}

/-- Nothing is kept. -/
def empty : Keyed κ α := fun _ => none

/-- Keep something else under one key. -/
def put [DecidableEq κ] (f : Keyed κ α) (key : κ) (value : Option α) : Keyed κ α :=
  fun k => if k = key then value else f k

/-- Keep the values of a list of entries, a later one in place of an earlier one with the same
key. -/
def putAll [DecidableEq κ] (f : Keyed κ α) (l : List (κ × α)) : Keyed κ α :=
  l.foldl (fun f (k, a) => f.put k (some a)) f

@[simp] theorem put_self [DecidableEq κ] (f : Keyed κ α) (key : κ) (value : Option α) :
    f.put key value key = value := if_pos rfl

/-- The other keys keep what they had. -/
theorem put_of_ne [DecidableEq κ] (f : Keyed κ α) {key k : κ} (value : Option α) (h : k ≠ key) :
    f.put key value k = f k := if_neg h

/-- Putting back what is kept changes nothing. -/
theorem put_of_eq [DecidableEq κ] {f : Keyed κ α} {key : κ} {value : Option α} (h : f key = value) :
    f.put key value = f := by
  funext k
  by_cases hk : k = key
  · rw [hk, put_self, h]
  · exact put_of_ne f value hk

/-- What is put last under a key counts. -/
theorem put_put [DecidableEq κ] (f : Keyed κ α) (key : κ) (first last : Option α) :
    (f.put key first).put key last = f.put key last := by
  funext k
  by_cases hk : k = key
  · rw [hk, put_self, put_self]
  · rw [put_of_ne _ _ hk, put_of_ne _ _ hk, put_of_ne _ _ hk]

end Keyed

end ClusterVolumes
