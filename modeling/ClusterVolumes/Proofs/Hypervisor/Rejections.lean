import ClusterVolumes.Hypervisor.Client
import ClusterVolumes.Proofs.Hypervisor.Flag

/-!
# Which replies tell of rejected parameters

A cluster that rejects the parameters of a request says which in an object, under `errors`. `ReadsRejections` lists the
values from which they are read, and `rejectedParameters_iff` says that a reply tells them exactly if its text is such a
value. Among the values that no reader takes for another (`Plainly`) they are the objects with a map under `errors` that
has entries (`Plainly.readsRejections_iff`).
-/

namespace ClusterVolumes

/-! ## Maps to any values -/

namespace Codec

/-- Entries of any values are read exactly if they are readable and there is room for what is nested in them. -/
theorem isOk_decodeEntries {β : Type} (put : String → Json → β → β) (room : Nat) :
    ∀ (ms : List (Option String × Json)) (b : β), (decodeEntries .any room put ms b).isOk =
      (Json.membersReadable ms && decide (Json.membersDepth ms ≤ room))
  | [], _ => by simp [decodeEntries, Json.membersReadable, Json.membersDepth]; rfl
  | (none, _) :: _, _ => rfl
  | (some k, j) :: ms, b => by
    have here : (any.decode room j).isOk = (j.isReadable && decide (j.depth ≤ room)) := isOk_decodeAny
    rw [decodeEntries, isOk_bind fun _ => isOk_decodeEntries put room ms _, here, Json.membersReadable,
      Json.membersDepth]
    simp only [Nat.max_le, Bool.decide_and, Option.isSome_some, Bool.true_and]
    ac_rfl

theorem isEmpty_insert (m : TextMap Json) (key : String) (j : Json) : (m.insert key j).isEmpty = false := by
  show (TextMap.insertEntry key j m.entries).isEmpty = false
  cases m.entries with
  | nil => rfl
  | cons e rest =>
    rw [TextMap.insertEntry]
    split
    · rfl
    · split <;> rfl

/-- The map that is read is empty if nothing is put in and it was empty before. -/
theorem isEmpty_decodeEntries : ∀ {ms : List (Option String × Json)} {room : Nat} {m m' : TextMap Json},
    decodeEntries .any room (fun k v m => m.insert k v) ms m = .ok m' → m'.isEmpty = (m.isEmpty && ms.isEmpty)
  | [], _, m, m', read => by
    cases read
    exact (Bool.and_true _).symm
  | (none, _) :: _, _, _, _, read => by cases read
  | (some k, j) :: ms, _, m, m', read => by
    obtain ⟨a, -, read⟩ := Decoded.bind_eq_ok.mp read
    rw [isEmpty_decodeEntries read, isEmpty_insert, List.isEmpty_cons, Bool.and_false, Bool.false_and]

/-- The entries of a map. -/
theorem decodeEntries_any_iff {ms : List (Option String × Json)} {room : Nat} :
    (∃ m, decodeEntries .any room (fun k v (m : TextMap Json) => m.insert k v) ms ∅ = .ok m ∧ m.isEmpty = false) ↔
      ms ≠ [] ∧ Json.membersReadable ms = true ∧ Json.membersDepth ms ≤ room := by
  have whole := isOk_decodeEntries (fun k v (m : TextMap Json) => m.insert k v) room ms ∅
  cases read : decodeEntries .any room (fun k v (m : TextMap Json) => m.insert k v) ms ∅ with
  | error e =>
    rw [read] at whole
    refine ⟨nofun, ?_⟩
    rintro ⟨-, readable, fits⟩
    rw [readable, decide_eq_true fits] at whole
    cases whole
  | ok m =>
    rw [read] at whole
    have both : (Json.membersReadable ms && decide (Json.membersDepth ms ≤ room)) = true := whole.symm
    have sound : Json.membersReadable ms = true ∧ Json.membersDepth ms ≤ room := by simpa using both
    have empty : m.isEmpty = ms.isEmpty := isEmpty_decodeEntries read
    constructor
    · rintro ⟨_, ⟨⟩, some⟩
      rw [empty] at some
      exact ⟨by simpa using some, sound⟩
    · rintro ⟨filled, -⟩
      refine ⟨m, rfl, ?_⟩
      rw [empty]
      simpa using filled

/-- A map with entries is read from an object with members that is readable and not nested too deep. -/
theorem textMap_any_decode_iff {room : Nat} {j : Json} :
    (∃ m, (textMap .any).decode room j = .ok m ∧ m.isEmpty = false) ↔
      ∃ ms, j = .obj ms ∧ ms ≠ [] ∧ j.isReadable = true ∧ j.depth ≤ room := by
  constructor
  · rintro ⟨m, read, some⟩
    simp only [textMap] at read
    split at read
    · cases read
    · rename_i room ms
      obtain ⟨filled, readable, fits⟩ := decodeEntries_any_iff.mp ⟨m, read, some⟩
      exact ⟨ms, rfl, filled, readable, Nat.succ_le_succ fits⟩
    · cases read
  · rintro ⟨ms, rfl, filled, readable, fits⟩
    cases room with
    | zero => exact absurd fits (Nat.not_succ_le_zero _)
    | succ room => exact decodeEntries_any_iff.mpr ⟨filled, readable, Nat.le_of_succ_le_succ fits⟩

end Codec

namespace Hypervisor

/-! ## What a value tells -/

/-- The value tells which parameters were rejected: it is an object with a map under `errors` that has entries. -/
def TellsRejections (j : Json) : Prop :=
  ∃ members errors, j = .obj members ∧ (some "errors", .obj errors) ∈ members ∧ errors ≠ []

/-- A map with entries that is readable and not nested too deep to stand in another value. -/
def ReadableMap (j : Json) : Prop :=
  ∃ errors, j = .obj errors ∧ errors ≠ [] ∧ j.isReadable = true ∧ j.depth < Codec.maxDepth

/-- A member is passed over: its key is another one, and nothing in it is broken. -/
def PassedOver (m : Option String × Json) : Prop :=
  (∃ k, m.1 = some k ∧ k ≠ "errors") ∧ m.2.isIntact = true

/-- Rejected parameters are read from the value: from the one member `errors` of an object, or from the one item of a
list, which stands for it. -/
inductive ReadsRejections : Json → Prop
  | object {before after : List (Option String × Json)} {j : Json} (map : ReadableMap j)
      (others : ∀ m ∈ before ++ after, PassedOver m) : ReadsRejections (.obj (before ++ (some "errors", j) :: after))
  | list {j : Json} (map : ReadableMap j) : ReadsRejections (.arr [j])

/-! ## Reading rejections -/

section

variable {room : Nat} {ms : List (Option String × Json)} {s t : TextMap Json}

/-- The field of the rejected parameters. -/
def errorsField : Field (TextMap Json) :=
  .of "errors" (.textMap .any) id fun x _ => x

theorem find?_errors : rejections.fields.find? (fun f => f.name = "errors") = some errorsField := by
  simp [rejections, errorsField, Field.of]

theorem find?_other {k : String} (other : k ≠ "errors") : rejections.fields.find? (fun f => f.name = k) = none := by
  simpa [rejections, Field.of] using other.symm

theorem errorsField_decode {j : Json} : errorsField.decode room j s = .ok t ↔ (Codec.textMap .any).decode room j = .ok t := by
  unfold errorsField Field.of
  dsimp only
  rw [Decoded.map_eq_ok]
  simp

theorem passedOver_iff {k : String} {j : Json} : PassedOver (some k, j) ↔ k ≠ "errors" ∧ j.isIntact = true := by
  simp [PassedOver]

theorem not_passedOver_none {j : Json} : ¬PassedOver (none, j) := by
  simp [PassedOver]

theorem not_passedOver_errors (j : Json) : ¬PassedOver (some "errors", j) := by
  simp [PassedOver]

/-- When the field was met, all other members are passed over. -/
theorem decodeMembers_met :
    rejections.decodeMembers room ms ["errors"] s = .ok t ↔ t = s ∧ ∀ m ∈ ms, PassedOver m := by
  induction ms with
  | nil =>
    have complete : rejections.decodeMembers room [] ["errors"] s = .ok s := by
      simp [Record.decodeMembers, rejections, Field.of]
    rw [complete, Except.ok.injEq]
    simp [eq_comm]
  | cons m ms ih =>
    obtain ⟨_ | k, j⟩ := m
    · refine ⟨fun read => ?_, fun h => absurd (h.2 _ List.mem_cons_self) not_passedOver_none⟩
      cases read
    by_cases same : k = "errors"
    · subst same
      rw [Record.decodeMembers_field find?_errors]
      exact ⟨fun h => absurd List.mem_cons_self h.1,
        fun h => absurd (h.2 _ List.mem_cons_self) (not_passedOver_errors j)⟩
    · rw [Record.decodeMembers_unknown (find?_other same), ih, List.forall_mem_cons, passedOver_iff]
      tauto

/-- As long as the field was not met, it may come. -/
theorem decodeMembers_unmet : rejections.decodeMembers room ms [] s = .ok t ↔
    (t = s ∧ ∀ m ∈ ms, PassedOver m) ∨ ∃ before j after, ms = before ++ (some "errors", j) :: after ∧
      (∀ m ∈ before ++ after, PassedOver m) ∧ (Codec.textMap .any).decode room j = .ok t := by
  induction ms with
  | nil =>
    have complete : rejections.decodeMembers room [] [] s = .ok s := by
      simp [Record.decodeMembers, rejections, Field.of]
    rw [complete, Except.ok.injEq]
    constructor
    · rintro rfl
      exact .inl ⟨rfl, by simp⟩
    · rintro (⟨rfl, -⟩ | ⟨before, j, after, split, -⟩)
      · rfl
      · simp at split
  | cons m ms ih =>
    obtain ⟨_ | k, j⟩ := m
    · constructor
      · intro read
        cases read
      rintro (⟨-, all⟩ | ⟨before, j', after, split, others, -⟩)
      · exact absurd (all _ List.mem_cons_self) not_passedOver_none
      · cases before with
        | nil => cases split
        | cons m before =>
          cases split
          exact absurd (others _ List.mem_cons_self) not_passedOver_none
    by_cases same : k = "errors"
    · subst same
      rw [Record.decodeMembers_field find?_errors]
      constructor
      · rintro ⟨-, u, read, rest⟩
        obtain ⟨rfl, others⟩ := decodeMembers_met.mp rest
        exact .inr ⟨[], j, ms, rfl, others, errorsField_decode.mp read⟩
      · rintro (⟨-, all⟩ | ⟨before, j', after, split, others, read⟩)
        · exact absurd (all _ List.mem_cons_self) (not_passedOver_errors j)
        · cases before with
          | nil =>
            cases split
            exact ⟨List.not_mem_nil, t, errorsField_decode.mpr read, decodeMembers_met.mpr ⟨rfl, others⟩⟩
          | cons m before =>
            cases split
            exact absurd (others _ List.mem_cons_self) (not_passedOver_errors j)
    · rw [Record.decodeMembers_unknown (find?_other same), ih]
      constructor
      · rintro ⟨intact, ⟨rfl, all⟩ | ⟨before, j', after, rfl, others, read⟩⟩
        · exact .inl ⟨rfl, List.forall_mem_cons.mpr ⟨passedOver_iff.mpr ⟨same, intact⟩, all⟩⟩
        · refine .inr ⟨(some k, j) :: before, j', after, rfl, ?_, read⟩
          exact List.forall_mem_cons.mpr ⟨passedOver_iff.mpr ⟨same, intact⟩, others⟩
      · rintro (⟨rfl, all⟩ | ⟨before, j', after, split, others, read⟩)
        · obtain ⟨passed, all⟩ := List.forall_mem_cons.mp all
          exact ⟨passed.2, .inl ⟨rfl, all⟩⟩
        · cases before with
          | nil =>
            cases split
            exact absurd rfl same
          | cons m before =>
            cases split
            obtain ⟨passed, others⟩ := List.forall_mem_cons.mp others
            exact ⟨passed.2, .inr ⟨before, j', after, rfl, others, read⟩⟩

/-- A list stands for the object if its one item does for the member. -/
theorem decodeFields_iff {items : List Json} :
    (∃ m, Record.decodeFields room rejections.fields items ∅ = .ok m ∧ m.isEmpty = false) ↔
      ∃ j m, items = [j] ∧ (Codec.textMap .any).decode room j = .ok m ∧ m.isEmpty = false := by
  constructor
  · rintro ⟨m, read, some⟩
    cases items with
    | nil =>
      cases read
      cases some
    | cons j items =>
      obtain ⟨t, first, rest⟩ := Decoded.bind_eq_ok.mp read
      cases items with
      | nil =>
        cases rest
        exact ⟨j, m, rfl, errorsField_decode.mp first, some⟩
      | cons _ _ => cases rest
  · rintro ⟨j, m, rfl, read, some⟩
    exact ⟨m, Decoded.bind_eq_ok.mpr ⟨m, errorsField_decode.mpr read, rfl⟩, some⟩

/-- Rejected parameters are read from exactly these values. -/
theorem rejections_decode_iff {j : Json} :
    (∃ m, rejections.codec.decode Codec.maxDepth j = .ok m ∧ m.isEmpty = false) ↔ ReadsRejections j := by
  have readable (j : Json) : (∃ m, (Codec.textMap .any).decode 126 j = .ok m ∧ m.isEmpty = false) ↔ ReadableMap j := by
    rw [Codec.textMap_any_decode_iff]
    exact exists_congr fun ms => and_congr_right fun _ => and_congr_right fun _ => and_congr_right fun _ =>
      Nat.lt_succ_iff.symm
  constructor
  · rintro ⟨m, read, some⟩
    cases j with
    | obj ms =>
      rcases decodeMembers_unmet.mp read with ⟨rfl, -⟩ | ⟨before, j, after, rfl, others, read⟩
      · cases some
      · exact .object ((readable j).mp ⟨m, read, some⟩) others
    | arr items =>
      obtain ⟨j, t, rfl, read, some⟩ := decodeFields_iff.mp ⟨m, read, some⟩
      exact .list ((readable j).mp ⟨t, read, some⟩)
    | null => nomatch read
    | bool _ => nomatch read
    | nat _ => nomatch read
    | decimal _ => nomatch read
    | str _ => nomatch read
    | broken => nomatch read
  · intro h
    cases h with
    | @object before after j map others =>
      obtain ⟨m, read, some⟩ := (readable j).mpr map
      exact ⟨m, decodeMembers_unmet.mpr (.inr ⟨before, j, after, rfl, others, read⟩), some⟩
    | @list j map =>
      obtain ⟨m, read, some⟩ := (readable j).mpr map
      exact decodeFields_iff.mpr ⟨j, m, rfl, read, some⟩

/-! ## Reading a reply -/

theorem ReadableMap.isIntact {j : Json} (map : ReadableMap j) : j.isIntact = true := by
  obtain ⟨_, -, -, readable, -⟩ := map
  exact Json.isIntact_of_isReadable readable

/-- Nothing is broken in a value from which rejected parameters are read. -/
theorem ReadsRejections.isIntact {j : Json} (h : ReadsRejections j) : j.isIntact = true := by
  cases h with
  | object map others =>
    refine Json.membersIntact_iff.mpr fun m mem => ?_
    rcases List.mem_append.mp mem with mem | mem
    · exact (others m (List.mem_append_left _ mem)).2
    · rcases List.mem_cons.mp mem with rfl | mem
      · exact map.isIntact
      · exact (others m (List.mem_append_right _ mem)).2
  | @list j map =>
    show (j.isIntact && true) = true
    rw [map.isIntact]
    rfl

/-- A reply tells of rejected parameters if its text is a value from which they are read. -/
theorem rejectedParameters_iff {body : String} :
    (rejectedParameters body).isEmpty = false ↔ ∃ j, Json.parse? body = some j ∧ ReadsRejections j := by
  unfold rejectedParameters
  constructor
  · intro some
    split at some
    · rename_i m read
      obtain ⟨j, all, decoded⟩ := Codec.readAll_of_ofText read
      have reads := rejections_decode_iff.mp ⟨m, decoded, some⟩
      refine ⟨j, ?_, reads⟩
      unfold Json.parse?
      rw [all]
      exact if_pos reads.isIntact
    · cases some
  · rintro ⟨j, parsed, reads⟩
    obtain ⟨m, decoded, some⟩ := rejections_decode_iff.mpr reads
    rw [Codec.ofText_of_parse? parsed, decoded]
    exact some

/-! ## Values that are read as they are -/

/-- A value that no reader takes for another: it is no list, it is readable and not nested too deep, and the key
`errors` is not repeated. -/
structure Plainly (j : Json) : Prop where
  noList : ∀ items, j ≠ .arr items
  readable : j.isReadable = true
  fits : j.depth ≤ Codec.maxDepth
  once : ∀ members, j = .obj members → (members.filter fun m => m.1 = some "errors").length ≤ 1

/-- From such a value rejected parameters are read if it tells them. -/
theorem Plainly.readsRejections_iff {j : Json} (h : Plainly j) : ReadsRejections j ↔ TellsRejections j := by
  constructor
  · intro reads
    cases reads with
    | object map others =>
      obtain ⟨errors, rfl, some, -, -⟩ := map
      exact ⟨_, errors, rfl, List.mem_append_right _ List.mem_cons_self, some⟩
    | list map => exact absurd rfl (h.noList _)
  · rintro ⟨members, errors, rfl, mem, some⟩
    have readable := Json.membersReadable_iff.mp h.readable
    have fits : (Json.obj errors).depth < Codec.maxDepth := Nat.lt_of_le_of_lt (Json.depth_le_membersDepth mem) h.fits
    have once := h.once members rfl
    obtain ⟨before, after, rfl⟩ := List.append_of_mem mem
    refine .object ⟨errors, rfl, some, (readable _ mem).2, fits⟩ fun m other => ?_
    have held : m ∈ before ++ (Option.some "errors", Json.obj errors) :: after := by
      rcases List.mem_append.mp other with other | other
      · exact List.mem_append_left _ other
      · exact List.mem_append_right _ (List.mem_cons_of_mem _ other)
    obtain ⟨key, text⟩ := readable m held
    obtain ⟨k, same⟩ := Option.isSome_iff_exists.mp key
    refine ⟨⟨k, same, ?_⟩, Json.isIntact_of_isReadable text⟩
    rintro rfl
    have no_other : (before ++ after).filter (fun m => m.1 = Option.some "errors") = [] := by
      rw [List.filter_append, List.filter_cons_of_pos (by simp), List.length_append, List.length_cons] at once
      rw [List.filter_append, ← List.length_eq_zero_iff, List.length_append]
      omega
    have mem' : m ∈ (before ++ after).filter (fun m => m.1 = Option.some "errors") :=
      List.mem_filter.mpr ⟨other, by simpa using same⟩
    rw [no_other] at mem'
    cases mem'

end

end Hypervisor

end ClusterVolumes
