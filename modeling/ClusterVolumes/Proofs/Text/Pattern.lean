import Mathlib.Data.List.Basic

/-!
# Patterns of texts

A pattern says which pieces of a text match it, with regard to what stands before and behind them, and which words such a
match captures (`Pattern.Matches`). A search in a text is for a match that begins leftmost, and all of these begin at one
place (`Pattern.Leftmost.before_eq`).
-/

namespace ClusterVolumes.Text

/-- A pattern for a piece of a text. -/
inductive Pattern
  | start
  | finish
  | word (chars : List Char)
  | run (first last : Char) (low high : Nat)
  | both (p q : Pattern)
  | either (p q : Pattern)
  | captured (p : Pattern)

namespace Pattern

/-- A piece of a text matches, where it stands between `before` and `behind`, and the words captured in it are these, from
left to right. A run has at least `low` and at most `high` characters, each between `first` and `last`. -/
def Matches : Pattern → (before piece behind : List Char) → (captures : List (List Char)) → Prop
  | start, before, piece, _, captures => before = [] ∧ piece = [] ∧ captures = []
  | finish, _, piece, behind, captures => behind = [] ∧ piece = [] ∧ captures = []
  | word chars, _, piece, _, captures => piece = chars ∧ captures = []
  | run first last low high, _, piece, _, captures =>
    (∀ c ∈ piece, first ≤ c ∧ c ≤ last) ∧ low ≤ piece.length ∧ piece.length ≤ high ∧ captures = []
  | both p q, before, piece, behind, captures =>
    ∃ left right ls rs, piece = left ++ right ∧ captures = ls ++ rs ∧ p.Matches before left (right ++ behind) ls ∧
      q.Matches (before ++ left) right behind rs
  | either p q, before, piece, behind, captures =>
    p.Matches before piece behind captures ∨ q.Matches before piece behind captures
  | captured p, before, piece, behind, captures =>
    ∃ inner, captures = piece :: inner ∧ p.Matches before piece behind inner

/-- A match in a text. -/
structure MatchIn (p : Pattern) (cs before piece behind : List Char) (captures : List (List Char)) : Prop where
  text : cs = before ++ piece ++ behind
  fits : p.Matches before piece behind captures

/-- A match in a text before which no other begins. -/
structure Leftmost (p : Pattern) (cs before piece behind : List Char) (captures : List (List Char)) : Prop
    extends MatchIn p cs before piece behind captures where
  first : ∀ before' piece' behind' captures', MatchIn p cs before' piece' behind' captures' →
    before.length ≤ before'.length

variable {p q : Pattern} {cs before piece behind before' piece' behind' : List Char} {captures captures' : List (List Char)}

theorem matches_both_iff : (both p q).Matches before piece behind captures ↔
    ∃ left right ls rs, piece = left ++ right ∧ captures = ls ++ rs ∧ p.Matches before left (right ++ behind) ls ∧
      q.Matches (before ++ left) right behind rs :=
  Iff.rfl

/-- Leftmost matches begin at one place. -/
theorem Leftmost.before_eq (h : Leftmost p cs before piece behind captures)
    (h' : Leftmost p cs before' piece' behind' captures') : before = before' := by
  have same : before.length = before'.length :=
    Nat.le_antisymm (h.first _ _ _ _ h'.toMatchIn) (h'.first _ _ _ _ h.toMatchIn)
  have texts := h.text.symm.trans h'.text
  rw [List.append_assoc, List.append_assoc] at texts
  exact (List.append_inj texts same).1

end Pattern

end ClusterVolumes.Text
