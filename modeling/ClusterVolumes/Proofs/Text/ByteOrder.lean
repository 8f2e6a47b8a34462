import ClusterVolumes.FileTree.Name
import Mathlib.Data.List.Lex
import Mathlib.Tactic.Common

/-!
# The order of texts by their bytes

Texts are compared character by character. Systems compare the bytes in which texts are written, which comes to the
same: the first byte in which two characters differ is the greater one for the greater character
(`Text.encoded_lt`), so a text is below another one exactly if its bytes are (`Text.bytes_lt_iff`).
-/

namespace ClusterVolumes.Text

theorem bytes_eq_flatMap (s : String) : bytes s = s.toList.flatMap String.utf8EncodeChar := by
  have written : s.toUTF8 = s.toList.utf8Encode := by
    rw [← String.toByteArray_ofList, String.ofList_toList]
    rfl
  rw [bytes, written, List.utf8Encode, List.toList_data_toByteArray]

/-- The bytes of a lower character are below those of a higher one, whatever follows. -/
theorem encoded_lt {c d : Char} (h : c < d) (s t : List UInt8) :
    String.utf8EncodeChar c ++ s < String.utf8EncodeChar d ++ t := by
  have below : c.val.toNat < d.val.toNat := UInt32.lt_iff_toNat_lt.mp (Char.lt_def.mp h)
  have last : d.val.toNat < 1114112 := by
    have valid := d.valid
    unfold UInt32.isValidChar Nat.isValidChar at valid
    omega
  unfold String.utf8EncodeChar
  generalize c.val.toNat = v at *
  generalize d.val.toNat = w at *
  simp only
  -- one case for each pair of lengths; every byte is given by a number that fits it
  split_ifs <;>
    simp (disch := omega) only [List.cons_append, List.nil_append, List.cons_lt_cons_iff, UInt8.lt_iff_toNat_lt,
      UInt8.toNat_ofNat', ← UInt8.toNat_inj, Nat.reducePow, Nat.mod_eq_of_lt] <;> omega

theorem flatMap_encoded_lt {l m : List Char} (h : l < m) :
    l.flatMap String.utf8EncodeChar < m.flatMap String.utf8EncodeChar := by
  induction l generalizing m with
  | nil =>
    cases m with
    | nil => exact absurd h (List.lt_irrefl _)
    | cons d m =>
      rw [List.flatMap_nil, List.flatMap_cons]
      cases e : String.utf8EncodeChar d with
      | nil => exact absurd e String.utf8EncodeChar_ne_nil
      | cons b bs => exact List.nil_lt_cons _ _
  | cons c l ih =>
    cases m with
    | nil => exact absurd h (List.not_lt_nil _)
    | cons d m =>
      rw [List.flatMap_cons, List.flatMap_cons]
      rcases List.cons_lt_cons_iff.mp h with first | ⟨rfl, rest⟩
      · exact encoded_lt first _ _
      · exact List.append_left_lt (ih rest)

/-- A text is below another one exactly if its bytes are. -/
theorem bytes_lt_iff {s t : String} : bytes s < bytes t ↔ s < t := by
  have rising {s t : String} (h : s < t) : bytes s < bytes t := by
    rw [bytes_eq_flatMap, bytes_eq_flatMap]
    exact flatMap_encoded_lt (String.lt_iff.mp h)
  constructor
  · intro h
    by_contra not_below
    by_cases above : t < s
    · exact List.lt_asymm h (rising above)
    · obtain rfl : s = t := String.le_antisymm (String.not_lt.mp above) (String.not_lt.mp not_below)
      exact List.lt_irrefl _ h
  · exact rising

theorem bytes_le_iff {s t : String} : bytes s ≤ bytes t ↔ s ≤ t := by
  rw [← List.not_lt, bytes_lt_iff, String.not_lt]

end ClusterVolumes.Text
