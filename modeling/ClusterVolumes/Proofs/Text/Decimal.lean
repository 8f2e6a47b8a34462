import ClusterVolumes.Text.Blank
import ClusterVolumes.Text.Unsigned
import Mathlib.Data.List.DropRight
import Mathlib.Tactic.Common

/-!
# Trimmed texts and decimal numbers

Trimming a text twice is trimming it once (`Text.trim_trim`), and the decimal text of a number is trimmed already and is
read as that number (`Text.readUnsigned_toString`).
-/

namespace ClusterVolumes.Text

/-! ## Trimmed texts -/

theorem trimChars_eq (cs : List Char) : trimChars cs = (cs.dropWhile isBlank).rdropWhile isBlank := rfl

/-- Taking characters away at the end brings no other to the beginning. -/
theorem dropWhile_rdropWhile {p : Char → Bool} {cs : List Char} (h : cs.dropWhile p = cs) :
    (cs.rdropWhile p).dropWhile p = cs.rdropWhile p := by
  rw [List.dropWhile_eq_self_iff] at h ⊢
  intro hl
  have front := List.rdropWhile_prefix p (l := cs)
  rw [front.getElem hl]
  exact h (hl.trans_le front.length_le)

theorem trimChars_trimChars (cs : List Char) : trimChars (trimChars cs) = trimChars cs := by
  have first : (cs.dropWhile isBlank).dropWhile isBlank = cs.dropWhile isBlank := List.dropWhile_idempotent isBlank cs
  rw [trimChars_eq, trimChars_eq, dropWhile_rdropWhile first, List.rdropWhile_idempotent]

/-- Trimming twice is trimming once. -/
theorem trim_trim (s : String) : trim (trim s) = trim s := by
  simp only [trim, String.toList_ofList, trimChars_trimChars]

/-- A text without blanks is left as it is. -/
theorem trim_of_unblank {s : String} (h : ∀ c ∈ s.toList, isBlank c = false) : trim s = s := by
  have front : s.toList.dropWhile isBlank = s.toList := by
    rw [List.dropWhile_eq_self_iff]
    intro hl
    simp [h _ (List.getElem_mem hl)]
  have back : s.toList.rdropWhile isBlank = s.toList := by
    rw [List.rdropWhile_eq_self_iff]
    intro hl
    simp [h _ (List.getLast_mem hl)]
  rw [trim, trimChars_eq, front, back, String.ofList_toList]

/-- Nothing is left exactly of a text of blanks. -/
theorem isEmpty_trim_iff {s : String} : (trim s).isEmpty = true ↔ ∀ c ∈ s.toList, isBlank c = true := by
  rw [String.isEmpty_iff, trim, String.ofList_eq_empty_iff, trimChars_eq, List.rdropWhile_eq_nil_iff]
  constructor
  · intro rest c hc
    rw [← List.takeWhile_append_dropWhile (p := isBlank) (l := s.toList), List.mem_append] at hc
    rcases hc with front | back
    · exact List.mem_takeWhile_imp front
    · exact rest c back
  · intro all c hc
    exact all c ((List.dropWhile_suffix isBlank).subset hc)

/-- A text begins or ends with a blank. -/
def Padded (s : String) : Prop :=
  ∃ c, (s.toList.head? = some c ∨ s.toList.getLast? = some c) ∧ isBlank c = true

/-- Trimming leaves exactly the texts that neither begin nor end with a blank. -/
theorem trim_eq_self_iff {s : String} : trim s = s ↔ ¬Padded s := by
  have front : s.toList.dropWhile isBlank = s.toList ↔ ∀ c, s.toList.head? = some c → isBlank c = false := by
    cases s.toList with
    | nil => simp
    | cons c cs => simp [List.dropWhile_eq_self_iff]
  have back : s.toList.rdropWhile isBlank = s.toList ↔ ∀ c, s.toList.getLast? = some c → isBlank c = false := by
    rw [List.rdropWhile_eq_self_iff]
    constructor
    · intro last c hc
      have hl : s.toList ≠ [] := fun none => by simp [none] at hc
      rw [List.getLast?_eq_some_getLast hl] at hc
      obtain rfl := Option.some.inj hc
      simpa using last hl
    · intro last hl
      simpa using last _ (List.getLast?_eq_some_getLast hl)
  have same : trim s = s ↔ s.toList.dropWhile isBlank = s.toList ∧ s.toList.rdropWhile isBlank = s.toList := by
    rw [trim, trimChars_eq, ← String.toList_inj, String.toList_ofList]
    constructor
    · intro kept
      have short := (List.rdropWhile_prefix isBlank (l := s.toList.dropWhile isBlank)).length_le
      rw [kept] at short
      have first := (List.dropWhile_suffix isBlank (l := s.toList)).eq_of_length_le short
      rw [first] at kept
      exact ⟨first, kept⟩
    · rintro ⟨first, last⟩
      rw [first, last]
  rw [same, front, back]
  constructor
  · rintro ⟨first, last⟩ ⟨c, e | e, blank⟩
    · exact absurd blank (by simp [first c e])
    · exact absurd blank (by simp [last c e])
  · intro plain
    refine ⟨fun c e => ?_, fun c e => ?_⟩
    · exact Bool.eq_false_iff.mpr fun blank => plain ⟨c, .inl e, blank⟩
    · exact Bool.eq_false_iff.mpr fun blank => plain ⟨c, .inr e, blank⟩

/-! ## Decimal numbers -/

theorem toList_toString (n : Nat) : (toString n).toList = Nat.toDigits 10 n := by
  rw [Nat.toString_eq_ofList_toDigits, String.toList_ofList]

/-- A digit is no blank. -/
theorem isBlank_of_isDigit {c : Char} (h : c.isDigit = true) : isBlank c = false := by
  simp only [Char.isDigit, Bool.and_eq_true, decide_eq_true_eq, UInt32.le_iff_toNat_le] at h
  have low : 48 ≤ c.toNat := h.1
  have high : c.toNat ≤ 57 := h.2
  simp only [isBlank, Bool.or_eq_false_iff, Bool.and_eq_false_iff, beq_eq_false_iff_ne, decide_eq_false_iff_not]
  omega

/-- The text of a number has no blanks. -/
theorem trim_toString (n : Nat) : trim (toString n) = toString n := by
  refine trim_of_unblank fun c hc => isBlank_of_isDigit ?_
  rw [toList_toString] at hc
  exact Nat.isDigit_of_mem_toDigits (b := 10) (n := n) (by decide) (by decide) hc

theorem digitValue?_digitChar {n : Nat} (h : n < 10) : digitValue? (Nat.digitChar n) = some n := by
  revert n
  decide

theorem readDigits_append (start : Nat) (cs ds : List Char) :
    readDigits start (cs ++ ds) = (readDigits start cs).bind fun n => readDigits n ds := by
  induction cs generalizing start with
  | nil => rfl
  | cons c cs ih =>
    simp only [List.cons_append, readDigits, ih]
    cases digitValue? c <;> rfl

/-- The decimal digits of a number are read as that number. -/
theorem readDigits_toDigits (n : Nat) : readDigits 0 (Nat.toDigits 10 n) = some n := by
  induction n using Nat.strongRecOn with
  | _ n ih =>
    rw [Nat.toDigits_eq_if (by decide)]
    split
    · rename_i small
      simp [readDigits, digitValue?_digitChar small]
    · have last : n % 10 < 10 := Nat.mod_lt n (by decide)
      rw [readDigits_append, ih (n / 10) (by omega)]
      simp only [Option.bind_some, readDigits, digitValue?_digitChar last, Option.bind_eq_bind]
      congr 1
      omega

/-- There is at least one digit. -/
theorem readNat?_toDigits (n : Nat) : readNat? (Nat.toDigits 10 n) = some n := by
  cases digits : Nat.toDigits 10 n with
  | nil => exact absurd digits Nat.toDigits_ne_nil
  | cons c cs =>
    rw [readNat?, ← digits, readDigits_toDigits]
    exact List.cons_ne_nil c cs

/-- The decimal text of a number up to the limit is read as that number. -/
theorem readUnsigned_toString {limit n : Nat} (h : n ≤ limit) : readUnsigned limit (toString n) = some n := by
  have read := readNat?_toDigits n
  have digits : ∀ c ∈ Nat.toDigits 10 n, c.isDigit = true :=
    fun c hc => Nat.isDigit_of_mem_toDigits (by decide) (by decide) hc
  unfold readUnsigned
  rw [toList_toString]
  cases e : Nat.toDigits 10 n with
  | nil => exact absurd e Nat.toDigits_ne_nil
  | cons c cs =>
    have unsigned : c ≠ '+' := by
      rintro rfl
      exact absurd (digits '+' (by simp [e])) (by decide)
    rw [e] at read
    simp [unsigned, read, h]

end ClusterVolumes.Text
