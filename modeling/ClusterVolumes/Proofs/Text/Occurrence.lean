import ClusterVolumes.Proofs.Text.Decimal
import ClusterVolumes.Text.Cut
import Mathlib.Data.List.Infix

/-!
# Where a text occurs in another

`Text.occursIn` finds the infixes of a text (`occursIn_iff`). A word occurs in two texts that stand side by side only if
it occurs in one of them, provided that a character stands between them which the word lacks
(`infix_separated_iff`), or that it does not begin in the first one (`infix_append_left_iff`) or does not end in the
second one (`infix_append_right_iff`). So blanks at the ends of a text do not count for a word without blanks at its own
ends (`infix_trimChars_iff`).
-/

namespace ClusterVolumes.Text

/-- A text occurs in another if it is an infix of it. -/
theorem occursIn_iff {part cs : List Char} : occursIn part cs = true ↔ part <:+: cs := by
  induction cs with
  | nil =>
    rw [occursIn, List.isEmpty_iff, List.infix_nil]
  | cons c cs ih =>
    rw [occursIn, Bool.or_eq_true, List.isPrefixOf_iff_prefix, ih, List.infix_cons_iff]

variable {w a b : List Char}

/-- A word that lacks a separator occurs on one side of it. -/
theorem infix_separated_iff {sep : Char} (lacks : sep ∉ w) : w <:+: a ++ sep :: b ↔ w <:+: a ∨ w <:+: b := by
  constructor
  · intro occurs
    rcases List.infix_append_iff.mp occurs with left | right | ⟨front, back, rfl, left, right⟩
    · exact .inl left
    · rcases List.infix_cons_iff.mp right with first | right
      · rcases List.prefix_cons_iff.mp first with rfl | ⟨rest, rfl, -⟩
        · exact .inl List.nil_infix
        · exact absurd List.mem_cons_self lacks
      · exact .inr right
    · rcases List.prefix_cons_iff.mp right with rfl | ⟨rest, rfl, -⟩
      · rw [List.append_nil]
        exact .inl left.isInfix
      · exact absurd (List.mem_append_right _ List.mem_cons_self) lacks
  · rintro (left | right)
    · exact left.trans (List.prefix_append _ _).isInfix
    · exact right.trans ((List.suffix_cons _ _).trans (List.suffix_append _ _)).isInfix

/-- A word that begins with no character of the first text occurs in the second one. -/
theorem infix_append_left_iff (begins : ∀ c ∈ a, w.head? ≠ some c) : w <:+: a ++ b ↔ w <:+: b := by
  constructor
  · intro occurs
    rcases List.infix_append_iff.mp occurs with left | right | ⟨front, back, rfl, left, right⟩
    · cases w with
      | nil => exact List.nil_infix
      | cons c w => exact absurd rfl (begins c (left.subset List.mem_cons_self))
    · exact right
    · cases front with
      | nil => exact right.isInfix
      | cons c front => exact absurd rfl (begins c (left.subset List.mem_cons_self))
  · intro right
    exact right.trans (List.suffix_append _ _).isInfix

/-- A word that ends with no character of the second text occurs in the first one. -/
theorem infix_append_right_iff (ends : ∀ c ∈ b, w.getLast? ≠ some c) : w <:+: a ++ b ↔ w <:+: a := by
  rw [← List.reverse_infix, List.reverse_append, infix_append_left_iff, List.reverse_infix]
  intro c mem
  rw [List.head?_reverse]
  exact ends c (List.mem_reverse.mp mem)

/-- A word without blanks at its ends occurs in a text if it does without the blanks at the ends of the text. -/
theorem infix_trimChars_iff {cs : List Char} (begins : ∀ c, w.head? = some c → isBlank c = false)
    (ends : ∀ c, w.getLast? = some c → isBlank c = false) : w <:+: trimChars cs ↔ w <:+: cs := by
  have front : ∀ c ∈ cs.takeWhile isBlank, w.head? ≠ some c := by
    intro c mem first
    have blank : isBlank c = true := List.mem_takeWhile_imp mem
    rw [begins c first] at blank
    cases blank
  have back : ∀ c ∈ (cs.dropWhile isBlank).rtakeWhile isBlank, w.getLast? ≠ some c := by
    intro c mem last
    have blank : isBlank c = true := List.mem_rtakeWhile_imp mem
    rw [ends c last] at blank
    cases blank
  rw [trimChars_eq, ← infix_append_right_iff back, List.rdropWhile_append_rtakeWhile, ← infix_append_left_iff front,
    List.takeWhile_append_dropWhile]

end ClusterVolumes.Text
