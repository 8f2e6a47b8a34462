/-!
# Maps from texts

Labels, annotations and parameters, and whatever else is kept under names. The entries are kept in
rising order of their keys, so that a map has one list of entries: `sorted_insertEntry` says that
putting in an entry keeps the order.
-/

namespace ClusterVolumes

/-- Finitely many values under distinct keys, in rising order of the keys. -/
structure TextMap (α : Type) where
  entries : List (String × α)
  sorted : entries.Pairwise fun a b => a.1 < b.1
  deriving DecidableEq

/-- A map from texts to texts. -/
abbrev StringMap : Type := TextMap String

namespace TextMap

variable {α β : Type}

instance [Repr α] : Repr (TextMap α) := ⟨fun m n => reprPrec m.entries n⟩

/-- The map without entries. -/
def empty : TextMap α := ⟨[], .nil⟩

instance : Inhabited (TextMap α) := ⟨empty⟩
instance : EmptyCollection (TextMap α) := ⟨empty⟩

/-- Put a value under a key of a rising list, in place of the one that was there. -/
def insertEntry (key : String) (value : α) : List (String × α) → List (String × α)
  | [] => [(key, value)]
  | e :: rest =>
    if key < e.1 then (key, value) :: e :: rest
    else if key = e.1 then (key, value) :: rest
    else e :: insertEntry key value rest

/-- Only the key that is put in can be new. -/
theorem mem_insertEntry {key : String} {value : α} {l : List (String × α)} {e : String × α}
    (h : e ∈ insertEntry key value l) : e = (key, value) ∨ e ∈ l := by
  induction l with
  | nil => exact Or.inl (by simpa [insertEntry] using h)
  | cons x xs ih =>
    simp only [insertEntry] at h
    split at h
    · rcases List.mem_cons.mp h with h | h
      · exact Or.inl h
      · exact Or.inr h
    · split at h
      · rcases List.mem_cons.mp h with h | h
        · exact Or.inl h
        · exact Or.inr (List.mem_cons_of_mem _ h)
      · rcases List.mem_cons.mp h with h | h
        · exact Or.inr (by simp [h])
        · rcases ih h with h | h
          · exact Or.inl h
          · exact Or.inr (List.mem_cons_of_mem _ h)

/-- Putting in an entry keeps the keys rising. -/
theorem sorted_insertEntry {key : String} {value : α} {l : List (String × α)}
    (h : l.Pairwise fun a b => a.1 < b.1) :
    (insertEntry key value l).Pairwise fun a b => a.1 < b.1 := by
  induction l with
  | nil => simp [insertEntry]
  | cons x xs ih =>
    obtain ⟨hx, hxs⟩ := List.pairwise_cons.mp h
    simp only [insertEntry]
    split
    · rename_i lt
      refine List.pairwise_cons.mpr ⟨fun e he => ?_, h⟩
      rcases List.mem_cons.mp he with rfl | he
      · exact lt
      · exact String.lt_trans lt (hx e he)
    · rename_i nlt
      split
      · rename_i eq
        refine List.pairwise_cons.mpr ⟨fun e he => ?_, hxs⟩
        subst eq
        exact hx e he
      · rename_i ne
        refine List.pairwise_cons.mpr ⟨fun e he => ?_, ih hxs⟩
        rcases mem_insertEntry he with rfl | he
        · have le : x.1 ≤ key := String.not_lt.mp nlt
          refine Decidable.byContradiction fun nlt' => ?_
          exact ne (String.le_antisymm (String.not_lt.mp nlt') le)
        · exact hx e he

/-- Put a value under a key, in place of the one that was there. -/
def insert (m : TextMap α) (key : String) (value : α) : TextMap α :=
  ⟨insertEntry key value m.entries, sorted_insertEntry m.sorted⟩

/-- The map of a list of entries, a later one in place of an earlier one with the same key. -/
def ofList (l : List (String × α)) : TextMap α :=
  l.foldl (fun m (k, v) => m.insert k v) ∅

/-- The value under a key. -/
def get? (m : TextMap α) (key : String) : Option α :=
  m.entries.lookup key

theorem lookup_cons {k : String} {x : String × α} {xs : List (String × α)} :
    (x :: xs).lookup k = if k = x.1 then some x.2 else xs.lookup k := by
  obtain ⟨key, value⟩ := x
  by_cases h : k = key
  · subst h
    simp
  · have ne : (k == key) = false := beq_false_of_ne h
    simp [List.lookup_cons, h, ne]

theorem lookup_insertEntry {key k : String} {value : α} {l : List (String × α)} :
    (insertEntry key value l).lookup k = if k = key then some value else l.lookup k := by
  induction l with
  | nil => simp [insertEntry, lookup_cons]
  | cons x xs ih =>
    simp only [insertEntry]
    split
    · rw [lookup_cons]
    · split
      · rename_i eq
        rw [lookup_cons, lookup_cons, ← eq]
        by_cases h : k = key <;> simp [h]
      · rename_i ne
        rw [lookup_cons, lookup_cons, ih]
        by_cases hx : k = x.1
        · have h : k ≠ key := fun h => ne (h.symm.trans hx)
          rw [if_pos hx, if_pos hx, if_neg h]
        · rw [if_neg hx, if_neg hx]

/-- Putting in a value is seen under its key only. -/
theorem get?_insert (m : TextMap α) (key k : String) (value : α) :
    (m.insert key value).get? k = if k = key then some value else m.get? k :=
  lookup_insertEntry

/-- The text under a key, empty if there is none. -/
def getText (m : StringMap) (key : String) : String :=
  (m.get? key).getD ""

/-- Is there a value under a key? -/
def contains (m : TextMap α) (key : String) : Bool :=
  (m.get? key).isSome

/-- Is there no entry? -/
def isEmpty (m : TextMap α) : Bool :=
  m.entries.isEmpty

/-- The keys in rising order. -/
def keys (m : TextMap α) : List String :=
  m.entries.map Prod.fst

/-- The values in rising order of their keys. -/
def values (m : TextMap α) : List α :=
  m.entries.map Prod.snd

/-- The entries whose keys satisfy a test. -/
def filterKeys (m : TextMap α) (p : String → Bool) : TextMap α :=
  ⟨m.entries.filter fun e => p e.1, m.sorted.sublist List.filter_sublist⟩

theorem lookup_filter {p : String → Bool} {k : String} {l : List (String × α)} :
    (l.filter fun e => p e.1).lookup k = if p k then l.lookup k else none := by
  induction l with
  | nil => simp
  | cons x xs ih =>
    rw [List.filter_cons, lookup_cons]
    by_cases hx : k = x.1
    · subst hx
      by_cases hp : p x.1 = true <;> simp [lookup_cons, hp, ih]
    · by_cases hp : p x.1 = true <;> simp [lookup_cons, hp, hx, ih]

/-- Only the keys that satisfy the test keep their values. -/
theorem get?_filterKeys (m : TextMap α) (p : String → Bool) (k : String) :
    (m.filterKeys p).get? k = if p k then m.get? k else none :=
  lookup_filter

/-- No key has two entries. -/
theorem nodup_keys (m : TextMap α) : m.keys.Nodup :=
  List.pairwise_map.mpr (m.sorted.imp fun {a b} lt (eq : a.1 = b.1) => String.lt_irrefl b.1 (eq ▸ lt))

theorem mem_keys_iff (m : TextMap α) (key : String) : key ∈ m.keys ↔ m.contains key = true := by
  simp only [keys, contains, get?, List.mem_map, List.lookup_isSome_iff, beq_iff_eq]
  exact exists_congr fun e => and_congr_right fun _ => eq_comm

/-- The map with every value changed by a function. -/
def map (f : α → β) (m : TextMap α) : TextMap β :=
  ⟨m.entries.map fun (k, v) => (k, f v), List.pairwise_map.mpr m.sorted⟩

end TextMap

end ClusterVolumes
