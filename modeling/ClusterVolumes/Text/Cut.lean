/-!
# Cutting texts at a separator

- `cutFirst` cuts at the first occurrence of a separator and `cutLast` at the last one;
- `pieces` cuts at every occurrence, so there is one piece more than there are separators;
- `joinWith` puts a separator between texts.

`cutFirst_eq_some_iff` says that a cut is the one way to write the text around its first separator, and
`pieces_append` that each side of a separator is cut for itself.
-/

namespace ClusterVolumes.Text

/-- What stands before and behind the first separator. -/
def cutFirst (sep : Char) : List Char → Option (List Char × List Char)
  | [] => none
  | c :: cs => if c = sep then some ([], cs) else (cutFirst sep cs).map fun (a, b) => (c :: a, b)

/-- What stands before and behind the last separator. -/
def cutLast (sep : Char) : List Char → Option (List Char × List Char)
  | [] => none
  | c :: cs =>
    match cutLast sep cs with
    | some (a, b) => some (c :: a, b)
    | none => if c = sep then some ([], cs) else none

/-- The texts between the separators. -/
def pieces (sep : Char) : List Char → List (List Char)
  | [] => [[]]
  | c :: cs =>
    if c = sep then [] :: pieces sep cs
    else match pieces sep cs with
      | [] => [[c]]
      | p :: ps => (c :: p) :: ps

/-- The texts with a separator between neighbours. -/
def joinWith (sep : String) : List String → String
  | [] => ""
  | [s] => s
  | s :: t :: rest => s ++ sep ++ joinWith sep (t :: rest)

/-- A text without the given beginning, or none if it begins otherwise. -/
def dropStart? : (beginning : List Char) → List Char → Option (List Char)
  | [], cs => some cs
  | _ :: _, [] => none
  | b :: bs, c :: cs => if b = c then dropStart? bs cs else none

/-- Is `part` found somewhere in the text? -/
def occursIn (part : List Char) : List Char → Bool
  | [] => part.isEmpty
  | c :: cs => part.isPrefixOf (c :: cs) || occursIn part cs

/-! ## Laws of cuts -/

/-- A cut is the one way to write the text around its first separator. -/
theorem cutFirst_eq_some_iff {sep : Char} {s a b : List Char} :
    cutFirst sep s = some (a, b) ↔ s = a ++ sep :: b ∧ sep ∉ a := by
  induction s generalizing a with
  | nil => simp [cutFirst]
  | cons c cs ih =>
    by_cases h : c = sep
    · subst h
      cases a with
      | nil => simp [cutFirst, eq_comm]
      | cons x xs =>
        simp only [cutFirst, if_true, Option.some.injEq, Prod.mk.injEq, List.cons_append,
          List.cons.injEq, List.mem_cons, not_or]
        constructor
        · rintro ⟨h, _⟩; cases h
        · rintro ⟨⟨h, _⟩, h', _⟩; exact absurd h h'
    · cases a with
      | nil => simp [cutFirst, h]
      | cons x xs =>
        simp only [cutFirst, if_neg h, Option.map_eq_some_iff, Prod.mk.injEq, List.cons_append,
          List.cons.injEq, List.mem_cons, not_or, Prod.exists]
        constructor
        · rintro ⟨a', b', h', ⟨hx, ha⟩, hb⟩
          subst hx ha hb
          obtain ⟨e, hm⟩ := ih.mp h'
          exact ⟨⟨rfl, e⟩, Ne.symm h, hm⟩
        · rintro ⟨⟨hx, e⟩, _, hm⟩
          exact ⟨xs, b, ih.mpr ⟨e, hm⟩, ⟨hx, rfl⟩, rfl⟩

/-- There is no cut exactly where there is no separator. -/
theorem cutFirst_eq_none_iff {sep : Char} {s : List Char} : cutFirst sep s = none ↔ sep ∉ s := by
  induction s with
  | nil => simp [cutFirst]
  | cons c cs ih =>
    by_cases h : c = sep
    · simp [cutFirst, h]
    · simp [cutFirst, h, ih, Ne.symm h]

/-- What stands behind a beginning is the rest of the text. -/
theorem dropStart?_eq_some_iff {beginning cs rest : List Char} :
    dropStart? beginning cs = some rest ↔ cs = beginning ++ rest := by
  induction beginning generalizing cs with
  | nil => simp [dropStart?]
  | cons b bs ih =>
    cases cs with
    | nil => simp [dropStart?]
    | cons c cs =>
      by_cases h : b = c
      · subst h
        simp [dropStart?, ih]
      · simp [dropStart?, h, Ne.symm h]

/-- Nothing stands behind what a text does not begin with. -/
theorem isNone_dropStart?_iff {beginning cs : List Char} :
    (dropStart? beginning cs).isNone = true ↔ ¬beginning <+: cs := by
  rw [Option.isNone_iff_eq_none, Option.eq_none_iff_forall_ne_some]
  refine ⟨fun none => ?_, fun other rest found => other ⟨rest, (dropStart?_eq_some_iff.mp found).symm⟩⟩
  rintro ⟨rest, rfl⟩
  exact none rest (dropStart?_eq_some_iff.mpr rfl)

/-- Joining is what the library calls so. -/
theorem joinWith_eq_intercalate (sep : String) (parts : List String) : joinWith sep parts = sep.intercalate parts := by
  induction parts with
  | nil => simp [joinWith]
  | cons s rest ih =>
    cases rest with
    | nil => simp [joinWith]
    | cons t rest => rw [joinWith, ih, String.intercalate_cons_cons]

/-! ## Laws of pieces -/

/-- A text without the separator is one piece. -/
theorem pieces_of_notMem {sep : Char} {cs : List Char} (h : sep ∉ cs) : pieces sep cs = [cs] := by
  induction cs with
  | nil => rfl
  | cons c cs ih =>
    obtain ⟨hc, hcs⟩ := not_or.mp fun held => h (List.mem_cons.mpr held)
    rw [pieces, if_neg (Ne.symm hc), ih hcs]

/-- A text is cut at a separator into what its two sides are cut into. -/
theorem pieces_append (sep : Char) (a b : List Char) : pieces sep (a ++ sep :: b) = pieces sep a ++ pieces sep b := by
  induction a with
  | nil => simp [pieces]
  | cons c cs ih =>
    rw [List.cons_append, pieces, pieces, ih]
    split
    · rfl
    · have some_piece : pieces sep cs ≠ [] := by
        cases cs with
        | nil => simp [pieces]
        | cons d ds =>
          unfold pieces
          split
          · simp
          · split <;> simp
      cases hp : pieces sep cs with
      | nil => exact absurd hp some_piece
      | cons p ps => rfl

/-- The pieces hold no other characters than the text. -/
theorem mem_of_mem_pieces {sep c : Char} {cs piece : List Char} (hp : piece ∈ pieces sep cs) (hc : c ∈ piece) :
    c ∈ cs := by
  induction cs generalizing piece with
  | nil => simp_all [pieces]
  | cons d ds ih =>
    unfold pieces at hp
    split at hp
    · rcases List.mem_cons.mp hp with rfl | hp
      · cases hc
      · exact List.mem_cons_of_mem d (ih hp hc)
    · split at hp
      · obtain rfl := List.mem_singleton.mp hp
        obtain rfl := List.mem_singleton.mp hc
        exact List.mem_cons_self
      · rename_i p ps e
        rcases List.mem_cons.mp hp with rfl | hp
        · rcases List.mem_cons.mp hc with rfl | hc
          · exact List.mem_cons_self
          · exact List.mem_cons_of_mem d (ih (e ▸ List.mem_cons_self) hc)
        · exact List.mem_cons_of_mem d (ih (e ▸ List.mem_cons_of_mem p hp) hc)

end ClusterVolumes.Text
