import ClusterVolumes.Hypervisor.Report
import ClusterVolumes.Proofs.Json.Faithful
import Mathlib

/-!
# Truth values in all the ways in which they are told

A reader of any value gets one exactly if the value is readable and not nested too deep (`isOk_decodeAny`), and so does
a reader of a flag (`flag_decode_iff`). `TellsTrue` lists the values that tell of a yes; all others tell of a no
(`flag_decode_true_iff`).
-/

namespace ClusterVolumes

namespace Json

mutual

/-- No number in the value is too great, all texts and keys have characters, and nothing is broken. -/
def isReadable : Json → Bool
  | .null => true
  | .bool _ => true
  | .nat n => (Json.nat n).numeral?.isSome
  | .decimal literal => (Json.decimal literal).numeral?.isSome
  | .str s => s.isSome
  | .arr items => itemsReadable items
  | .obj members => membersReadable members
  | .broken => false

/-- All items are readable. -/
def itemsReadable : List Json → Bool
  | [] => true
  | j :: js => j.isReadable && itemsReadable js

/-- All members are readable. -/
def membersReadable : List (Option String × Json) → Bool
  | [] => true
  | (k, j) :: ms => k.isSome && j.isReadable && membersReadable ms

end

mutual

/-- Nothing is broken in what is readable. -/
theorem isIntact_of_isReadable : ∀ {j : Json}, j.isReadable = true → j.isIntact = true
  | .null, _ => rfl
  | .bool _, _ => rfl
  | .nat _, _ => rfl
  | .decimal _, _ => rfl
  | .str _, _ => rfl
  | .arr _, h => itemsIntact_of_itemsReadable h
  | .obj _, h => membersIntact_of_membersReadable h

theorem itemsIntact_of_itemsReadable : ∀ {js : List Json}, itemsReadable js = true → itemsIntact js = true
  | [], _ => rfl
  | j :: js, h => by
    rw [itemsReadable, Bool.and_eq_true] at h
    rw [itemsIntact, isIntact_of_isReadable h.1, itemsIntact_of_itemsReadable h.2]
    rfl

theorem membersIntact_of_membersReadable : ∀ {ms : List (Option String × Json)}, membersReadable ms = true →
    membersIntact ms = true
  | [], _ => rfl
  | (_, j) :: ms, h => by
    rw [membersReadable, Bool.and_eq_true, Bool.and_eq_true] at h
    rw [membersIntact, isIntact_of_isReadable h.1.2, membersIntact_of_membersReadable h.2]
    rfl

end

theorem membersReadable_iff : ∀ {ms : List (Option String × Json)},
    membersReadable ms = true ↔ ∀ m ∈ ms, m.1.isSome = true ∧ m.2.isReadable = true
  | [] => by simp [membersReadable]
  | (_, j) :: ms => by
    rw [membersReadable, Bool.and_eq_true, Bool.and_eq_true, membersReadable_iff, List.forall_mem_cons]

theorem membersIntact_iff : ∀ {ms : List (Option String × Json)},
    membersIntact ms = true ↔ ∀ m ∈ ms, m.2.isIntact = true
  | [] => by simp [membersIntact]
  | (_, j) :: ms => by
    rw [membersIntact, Bool.and_eq_true, membersIntact_iff, List.forall_mem_cons]

theorem depth_le_membersDepth : ∀ {ms : List (Option String × Json)} {m : Option String × Json}, m ∈ ms →
    m.2.depth ≤ membersDepth ms
  | (_, j) :: ms, m, mem => by
    rw [membersDepth]
    rcases List.mem_cons.mp mem with rfl | mem
    · exact Nat.le_max_left _ _
    · exact (depth_le_membersDepth mem).trans (Nat.le_max_right _ _)

end Json

/-! ## Any value -/

namespace Codec

theorem isOk_bind {α β : Type} {x : Decoded α} {f : α → Decoded β} {b : Bool} (h : ∀ a, (f a).isOk = b) :
    (x >>= f).isOk = (x.isOk && b) := by
  cases x with
  | error e => rfl
  | ok a => exact h a

theorem isOk_map {α β : Type} {x : Decoded α} {f : α → β} : (x.map f).isOk = x.isOk := by
  cases x <;> rfl

mutual

/-- Any value is read exactly if it is readable and there is room for what is nested in it. -/
theorem isOk_decodeAny : ∀ {j : Json} {room : Nat},
    (decodeAny room j).isOk = (j.isReadable && decide (j.depth ≤ room))
  | .null, _ => by simp [decodeAny, Json.isReadable, Json.depth]; rfl
  | .bool _, _ => by simp [decodeAny, Json.isReadable, Json.depth]; rfl
  | .nat n, _ => by
    simp only [decodeAny, Json.isReadable, Json.depth, Nat.zero_le, decide_true, Bool.and_true]
    cases (Json.nat n).numeral? <;> rfl
  | .decimal literal, _ => by
    simp only [decodeAny, Json.isReadable, Json.depth, Nat.zero_le, decide_true, Bool.and_true]
    cases (Json.decimal literal).numeral? <;> rfl
  | .str none, _ => rfl
  | .str (some _), _ => by simp [decodeAny, Json.isReadable, Json.depth]; rfl
  | .broken, _ => rfl
  | .arr items, 0 => by simp [decodeAny, Json.depth]; rfl
  | .arr items, room + 1 => by
    rw [decodeAny, if_neg (Nat.succ_ne_zero room), isOk_map, Nat.add_sub_cancel, isOk_anyItems, Json.isReadable,
      Json.depth]
    simp only [Nat.add_le_add_iff_right]
  | .obj members, 0 => by simp [decodeAny, Json.depth]; rfl
  | .obj members, room + 1 => by
    rw [decodeAny, if_neg (Nat.succ_ne_zero room), isOk_map, Nat.add_sub_cancel, isOk_anyMembers, Json.isReadable,
      Json.depth]
    simp only [Nat.add_le_add_iff_right]

theorem isOk_anyItems : ∀ {js : List Json} {room : Nat},
    (anyItems room js).isOk = (Json.itemsReadable js && decide (Json.itemsDepth js ≤ room))
  | [], _ => by simp [anyItems, Json.itemsReadable, Json.itemsDepth]; rfl
  | j :: js, room => by
    have others (a : Json) : (anyItems room js >>= fun as => pure (a :: as)).isOk = (anyItems room js).isOk :=
      (isOk_bind (b := true) fun _ => rfl).trans (Bool.and_true _)
    rw [anyItems, isOk_bind others, isOk_decodeAny, isOk_anyItems, Json.itemsReadable, Json.itemsDepth]
    simp only [Nat.max_le, Bool.decide_and]
    ac_rfl

theorem isOk_anyMembers : ∀ {ms : List (Option String × Json)} {room : Nat} {done : List (Option String × Json)},
    (anyMembers room ms done).isOk = (Json.membersReadable ms && decide (Json.membersDepth ms ≤ room))
  | [], _, _ => by simp [anyMembers, Json.membersReadable, Json.membersDepth]; rfl
  | (none, _) :: _, _, _ => rfl
  | (some k, j) :: ms, room, done => by
    rw [anyMembers, isOk_bind fun _ => isOk_anyMembers, isOk_decodeAny, Json.membersReadable, Json.membersDepth]
    simp only [Nat.max_le, Bool.decide_and, Option.isSome_some, Bool.true_and]
    ac_rfl

end

end Codec

/-! ## Flags -/

namespace Hypervisor

/-- A text is a word in any case of letters. -/
def InAnyCase (s word : String) : Prop :=
  List.Forall₂ (fun c l => c = l ∨ c = l.toUpper) s.toList word.toList

/-- A value that tells of a yes. -/
inductive TellsTrue : Json → Prop
  | bool : TellsTrue (.bool true)
  | positive {n : Nat} : 0 < n → n < UInt64.size → TellsTrue (.nat n)
  | one : TellsTrue (.text "1")
  | word {s : String} : InAnyCase s "true" → TellsTrue (.text s)

/-- A character that is not great is the small one of itself and of the great one, if there is one. -/
theorem toLower_eq_iff {l : Char} (small : ¬l.isUpper = true) {c : Char} : c.toLower = l ↔ c = l ∨ c = l.toUpper := by
  constructor
  · rintro rfl
    by_cases great : c.isUpper = true
    · right
      rw [Char.toUpper_toLower_eq_toUpper, Char.toUpper_eq_of_not_isLower (Char.not_isLower_of_isUpper great)]
    · exact .inl (Char.toLower_eq_of_not_isUpper great).symm
  · have same : l.toLower = l := Char.toLower_eq_of_not_isUpper small
    rintro (rfl | rfl)
    · exact same
    · rw [Char.toLower_toUpper_eq_toLower, same]

theorem map_toLower_eq_iff {cs word : List Char} (small : ∀ l ∈ word, ¬l.isUpper = true) :
    cs.map Char.toLower = word ↔ List.Forall₂ (fun c l => c = l ∨ c = l.toUpper) cs word := by
  induction word generalizing cs with
  | nil =>
    cases cs with
    | nil => simp
    | cons c cs => exact ⟨nofun, nofun⟩
  | cons l word ih =>
    cases cs with
    | nil => exact ⟨nofun, nofun⟩
    | cons c cs =>
      rw [List.forall_mem_cons] at small
      rw [List.map_cons, List.cons_eq_cons, List.forall₂_cons, toLower_eq_iff small.1, ih small.2]

theorem flagOf_text {s : String} : flagOf (.text s) = true ↔ TellsTrue (.text s) := by
  have small : ∀ l ∈ ['t', 'r', 'u', 'e'], ¬l.isUpper = true := by simp [Char.isUpper]
  have word : s.toList.map Char.toLower = ['t', 'r', 'u', 'e'] ↔ InAnyCase s "true" := map_toLower_eq_iff small
  simp only [flagOf, Json.text, Bool.or_eq_true, beq_iff_eq, word]
  constructor
  · rintro (rfl | h)
    · exact .one
    · exact .word h
  · rintro (_ | _ | _ | h)
    · exact .inl rfl
    · exact .inr h

theorem flagOf_nat {n : Nat} : flagOf (.nat n) = true ↔ 0 < n := by
  simp [flagOf, Nat.pos_iff_ne_zero]

/-- What a value is read as tells of a yes if the value does. -/
theorem flagOf_decodeAny {j a : Json} {room : Nat} (read : Codec.decodeAny room j = .ok a) :
    flagOf a = true ↔ TellsTrue j := by
  cases j with
  | null =>
    cases read
    exact ⟨nofun, nofun⟩
  | bool b =>
    cases read
    constructor
    · rintro rfl
      exact .bool
    · rintro ⟨⟩
      rfl
  | nat n =>
    rw [Codec.decodeAny] at read
    split at read
    · cases read
    · cases read
      split
      · rename_i small
        rw [flagOf_nat]
        exact ⟨fun pos => .positive pos (Nat.lt_succ_of_le small), fun h => by cases h; assumption⟩
      · rename_i great
        refine ⟨nofun, fun h => ?_⟩
        cases h with
        | positive _ small => exact absurd (Nat.le_of_lt_succ small) great
  | decimal literal =>
    rw [Codec.decodeAny] at read
    split at read <;> cases read
    exact ⟨nofun, nofun⟩
  | str s =>
    cases s with
    | none => cases read
    | some s =>
      cases read
      exact flagOf_text
  | arr items =>
    rw [Codec.decodeAny] at read
    split at read
    · cases read
    · obtain ⟨items', -, rfl⟩ := Decoded.map_eq_ok.mp read
      exact ⟨nofun, nofun⟩
  | obj members =>
    rw [Codec.decodeAny] at read
    split at read
    · cases read
    · obtain ⟨members', -, rfl⟩ := Decoded.map_eq_ok.mp read
      exact ⟨nofun, nofun⟩
  | broken => cases read

/-- **A flag is read from any value** that is readable and not nested too deep, and from no other. -/
theorem flag_decode_iff {j : Json} {room : Nat} :
    (∃ b, flag.decode room j = .ok b) ↔ j.isReadable = true ∧ j.depth ≤ room := by
  have some_iff : (∃ a, Codec.decodeAny room j = .ok a) ↔ (Codec.decodeAny room j).isOk = true := by
    cases Codec.decodeAny room j with
    | error e => exact ⟨nofun, nofun⟩
    | ok a => exact ⟨fun _ => rfl, fun _ => ⟨a, rfl⟩⟩
  rw [Codec.isOk_decodeAny, Bool.and_eq_true, decide_eq_true_eq] at some_iff
  rw [← some_iff]
  constructor
  · rintro ⟨b, read⟩
    obtain ⟨a, read, -⟩ := Decoded.map_eq_ok.mp read
    exact ⟨a, read⟩
  · rintro ⟨a, read⟩
    exact ⟨flagOf a, Decoded.map_eq_ok.mpr ⟨a, read, rfl⟩⟩

/-- **A flag is yes** exactly if the value that it is read from tells of a yes. -/
theorem flag_decode_true_iff {j : Json} {room : Nat} {b : Bool} (read : flag.decode room j = .ok b) :
    b = true ↔ TellsTrue j := by
  obtain ⟨a, any, rfl⟩ := Decoded.map_eq_ok.mp read
  exact flagOf_decodeAny any

end Hypervisor

end ClusterVolumes
