import ClusterVolumes.Proofs.Text.Decimal
import ClusterVolumes.Volume.Options
import Mathlib.Data.Set.Image
import Mathlib.Tactic.Common

/-!
# Options and their map

Options are read from a map and written to one through the table `VolumeOptions.fields`. What holds of each row is said
once: a slot keeps what is put into it (`keeps_of_mem`), it is empty at the beginning (`unset_of_mem`), and the slots of
two rows are `Apart` (`apart_fields`). So what is written of an option is read as the same (`OptionField.read_write`),
and by induction on the rows a map that gives every option as it is written is read as the options that were read
(`readFields_again`). Other keys are no matter: `ofMap_toMap_extend`.
-/

namespace ClusterVolumes

/-! ## Maps with more entries -/

namespace TextMap

variable {α : Type}

/-- The entries of a list put into a map one after the other. -/
def insertAll (m : TextMap α) (l : List (String × α)) : TextMap α :=
  l.foldl (fun m (k, v) => m.insert k v) m

/-- A map with the entries of another, which take the place of its own. -/
def extend (m more : TextMap α) : TextMap α :=
  m.insertAll more.entries

theorem insertAll_append (m : TextMap α) (l more : List (String × α)) :
    m.insertAll (l ++ more) = (m.insertAll l).insertAll more :=
  List.foldl_append

/-- Entries under other keys do not change what is under a key. -/
theorem get?_insertAll_of_notMem {l : List (String × α)} {k : String} (h : k ∉ l.map Prod.fst) (m : TextMap α) :
    (m.insertAll l).get? k = m.get? k := by
  induction l generalizing m with
  | nil => rfl
  | cons e l ih =>
    obtain ⟨other, rest⟩ := not_or.mp (mt List.mem_cons.mpr h)
    refine (ih rest (m.insert e.1 e.2)).trans ?_
    rw [get?_insert, if_neg other]

theorem get?_extend_of_notMem {m more : TextMap α} {k : String} (h : k ∉ more.keys) :
    (m.extend more).get? k = m.get? k :=
  get?_insertAll_of_notMem h m

end TextMap

namespace VolumeOptions

/-! ## Slots -/

/-- The changes that filling a slot can make. -/
def Slot.edits : Slot → Set (VolumeOptions → VolumeOptions)
  | .text _ _ set => Set.range set
  | .flag _ set => Set.range set
  | .count _ set => Set.range set

/-- Take out what a slot holds. -/
def Slot.clear : Slot → VolumeOptions → VolumeOptions
  | .text _ _ set => set ""
  | .flag _ set => set false
  | .count _ set => set none

/-- What is put into a slot is found there. -/
def Slot.Keeps : Slot → Prop
  | .text _ get set => ∀ v o, get (set v o) = v
  | .flag get set => ∀ v o, get (set v o) = v
  | .count get set => ∀ v o, get (set v o) = v

namespace OptionField

variable {f g : OptionField} {key raw : String} {o p : VolumeOptions}

theorem read_text_iff {allowed : List String} {get : VolumeOptions → String}
    {set : String → VolumeOptions → VolumeOptions} :
    read ⟨key, .text allowed get set⟩ raw o = .ok p ↔
      (allowed.isEmpty || allowed.contains (Text.trim raw)) = true ∧ set (Text.trim raw) o = p := by
  simp only [read]
  by_cases listed : (allowed.isEmpty || allowed.contains (Text.trim raw)) = true
  · simp only [listed, if_true, true_and, Except.ok.injEq]
  · simp only [listed, if_false, false_and, Bool.false_eq_true, reduceCtorEq]

theorem read_flag_iff {get : VolumeOptions → Bool} {set : Bool → VolumeOptions → VolumeOptions} :
    read ⟨key, .flag get set⟩ raw o = .ok p ↔ ∃ b, readFlag? (Text.trim raw) = some b ∧ set b o = p := by
  simp only [read]
  cases readFlag? (Text.trim raw) <;> simp

theorem read_count_iff {get : VolumeOptions → Option UInt32} {set : Option UInt32 → VolumeOptions → VolumeOptions} :
    read ⟨key, .count get set⟩ raw o = .ok p ↔
      ∃ n, Text.readUnsigned (UInt32.size - 1) (Text.trim raw) = some n ∧ set (some (UInt32.ofNat n)) o = p := by
  simp only [read]
  cases Text.readUnsigned (UInt32.size - 1) (Text.trim raw) <;> simp

/-- The option is not set. -/
def Unset (f : OptionField) (o : VolumeOptions) : Prop :=
  f.slot.clear o = o

/-- Filling the second option leaves what is written of the first, and the first is filled alike before and after the
second is cleared. -/
def Apart (f g : OptionField) : Prop :=
  (∀ edit ∈ g.slot.edits, ∀ o, f.write (edit o) = f.write o) ∧
    ∀ edit ∈ f.slot.edits, ∀ o, g.slot.clear (edit o) = edit (g.slot.clear o)

/-- Reading an option fills its slot. -/
theorem edit_of_read (h : f.read raw o = .ok p) : ∃ edit ∈ f.slot.edits, edit o = p := by
  obtain ⟨key, slot⟩ := f
  cases slot with
  | text allowed get set => exact ⟨_, ⟨_, rfl⟩, (read_text_iff.mp h).2⟩
  | flag get set =>
    obtain ⟨b, -, e⟩ := read_flag_iff.mp h
    exact ⟨_, ⟨b, rfl⟩, e⟩
  | count get set =>
    obtain ⟨n, -, e⟩ := read_count_iff.mp h
    exact ⟨_, ⟨_, rfl⟩, e⟩

/-- An option that is not set is not written. -/
theorem write_of_unset (keeps : f.slot.Keeps) (h : f.Unset o) : f.write o = none := by
  obtain ⟨key, slot⟩ := f
  cases slot <;> rw [← h] <;> simp only [write, Slot.clear, keeps _ _] <;> rfl

/-- What is written of an option that was read is read as the same; where nothing is written, nothing was filled in. -/
theorem read_write (keeps : f.slot.Keeps) (unset : f.Unset o) (h : f.read raw o = .ok p) :
    f.write p = none ∧ p = o ∨ ∃ written, f.write p = some written ∧ f.read written o = .ok p := by
  obtain ⟨key, slot⟩ := f
  cases slot with
  | text allowed get set =>
    obtain ⟨listed, rfl⟩ := read_text_iff.mp h
    by_cases empty : Text.trim raw = ""
    · rw [empty]
      have same : set "" o = o := unset
      have none : get (set "" o) = "" := keeps "" o
      exact Or.inl ⟨by simp [write, none, nonempty], same⟩
    · refine Or.inr ⟨Text.trim raw, ?_, read_text_iff.mpr ?_⟩
      · simp [write, keeps _ _, nonempty, empty]
      · rw [Text.trim_trim]
        exact ⟨listed, rfl⟩
  | flag get set =>
    obtain ⟨b, -, rfl⟩ := read_flag_iff.mp h
    cases b with
    | false => exact Or.inl ⟨by simp [write, keeps _ _], unset⟩
    | true =>
      have yes : readFlag? (Text.trim "true") = some true := by decide +kernel
      exact Or.inr ⟨"true", by simp [write, keeps _ _], read_flag_iff.mpr ⟨true, yes, rfl⟩⟩
  | count get set =>
    obtain ⟨n, -, rfl⟩ := read_count_iff.mp h
    have small : (UInt32.ofNat n).toNat ≤ UInt32.size - 1 := Nat.le_sub_one_of_lt (UInt32.toNat_lt_size _)
    refine Or.inr ⟨toString (UInt32.ofNat n).toNat, by simp [write, keeps _ _], read_count_iff.mpr ?_⟩
    refine ⟨(UInt32.ofNat n).toNat, ?_, ?_⟩
    · rw [Text.trim_toString, Text.readUnsigned_toString small]
    · rw [UInt32.ofNat_toNat]

end OptionField

/-! ## The rows of the table -/

theorem keeps_of_mem : ∀ f ∈ fields, f.slot.Keeps := by
  have content (s : String) : (nonempty s).getD "" = s := by
    unfold nonempty
    split
    · simp_all
    · rfl
  simp [fields, Slot.Keeps, content]

theorem unset_of_mem : ∀ f ∈ fields, f.Unset {} := by
  simp [fields, OptionField.Unset, Slot.clear, nonempty]

theorem apart_fields : fields.Pairwise OptionField.Apart := by
  simp only [fields, List.pairwise_cons, List.mem_cons, forall_eq_or_imp, OptionField.Apart, Slot.edits,
    Set.forall_mem_range, OptionField.write, Slot.clear]
  simp [nonempty]

/-! ## Refusals -/

/-- An option that is refused is named first. -/
theorem OptionField.read_error {f : OptionField} {raw : String} {o : VolumeOptions} {e : Failure}
    (h : f.read raw o = .error e) : ∃ why, e = .invalidArgument ("parameter " ++ f.key ++ (" must be " ++ why)) := by
  have anyOf : " must be one of " = " must be " ++ "one of " := rfl
  have boolean : " must be a boolean, got " = " must be " ++ "a boolean, got " := rfl
  have number : " must be a non-negative integer, got " = " must be " ++ "a non-negative integer, got " := rfl
  obtain ⟨key, slot⟩ := f
  cases slot with
  | text allowed get set =>
    simp only [read] at h
    split at h
    · cases h
    · cases h
      exact ⟨"one of " ++ (Text.joinWith ", " allowed ++ (", got " ++ Text.quoted (Text.trim raw))),
        by simp only [anyOf, String.append_assoc]⟩
  | flag get set =>
    simp only [read] at h
    split at h
    · cases h
    · cases h
      exact ⟨"a boolean, got " ++ Text.quoted (Text.trim raw), by simp only [boolean, String.append_assoc]⟩
  | count get set =>
    simp only [read] at h
    split at h
    · cases h
    · cases h
      exact ⟨"a non-negative integer, got " ++ Text.quoted (Text.trim raw),
        by simp only [number, String.append_assoc]⟩

/-- A map is refused for one of the options that are read. -/
theorem readFields_error {m : StringMap} {e : Failure} : ∀ {fs : List OptionField} {o : VolumeOptions},
    readFields m fs o = .error e →
      ∃ f ∈ fs, ∃ why, e = .invalidArgument ("parameter " ++ f.key ++ (" must be " ++ why))
  | [], _, h => by cases h
  | f :: fs, o, h => by
    have later {p : VolumeOptions} (h : readFields m fs p = .error e) :
        ∃ g ∈ f :: fs, ∃ why, e = .invalidArgument ("parameter " ++ g.key ++ (" must be " ++ why)) := by
      obtain ⟨g, hg, refused⟩ := readFields_error h
      exact ⟨g, List.mem_cons_of_mem f hg, refused⟩
    rw [readFields] at h
    split at h
    · exact later h
    · rename_i raw _
      cases first : f.read raw o with
      | error e' =>
        rw [first] at h
        cases h
        exact ⟨f, List.mem_cons_self, OptionField.read_error first⟩
      | ok p =>
        rw [first] at h
        exact later h

/-! ## Reading again -/

section


variable {m again : StringMap} {f : OptionField} {fs : List OptionField} {o p : VolumeOptions}

/-- Reading goes on behind the first option with what it left. -/
theorem readFields_cons (h : readFields m (f :: fs) o = .ok p) :
    ∃ next, readFields m fs next = .ok p ∧
      (m.get? f.key = none ∧ next = o ∨ ∃ raw, m.get? f.key = some raw ∧ f.read raw o = .ok next) := by
  rw [readFields] at h
  cases e : m.get? f.key with
  | none =>
    rw [e] at h
    exact ⟨o, h, Or.inl ⟨rfl, rfl⟩⟩
  | some raw =>
    rw [e] at h
    cases first : f.read raw o with
    | error failure => simp [first, bind, Except.bind] at h
    | ok next =>
      simp only [first, bind, Except.bind] at h
      exact ⟨next, h, Or.inr ⟨raw, rfl, first⟩⟩

/-- Options that are apart from one leave what is written of it. -/
theorem write_readFields (apart : ∀ g ∈ fs, f.Apart g) (h : readFields m fs o = .ok p) : f.write p = f.write o := by
  induction fs generalizing o with
  | nil =>
    obtain rfl := Except.ok.inj h
    rfl
  | cons g fs ih =>
    obtain ⟨first, rest⟩ := List.forall_mem_cons.mp apart
    obtain ⟨next, later, ⟨-, rfl⟩ | ⟨raw, -, read⟩⟩ := readFields_cons h
    · exact ih rest later
    · obtain ⟨edit, he, rfl⟩ := OptionField.edit_of_read read
      exact (ih rest later).trans (first.1 edit he o)

/-- **Options are read again.** A map that gives each option of a list as it is written is read as the options that were
read. -/
theorem readFields_again (apart : fs.Pairwise OptionField.Apart) (keeps : ∀ f ∈ fs, f.slot.Keeps)
    (unset : ∀ f ∈ fs, f.Unset o) (h : readFields m fs o = .ok p) (written : ∀ f ∈ fs, again.get? f.key = f.write p) :
    readFields again fs o = .ok p := by
  -- the options behind a row are still unset when it is read, so the induction leaves open where it begins
  induction fs generalizing o with
  | nil => exact h
  | cons f fs ih =>
    obtain ⟨before, apart⟩ := List.pairwise_cons.mp apart
    obtain ⟨here, keeps⟩ := List.forall_mem_cons.mp keeps
    obtain ⟨blank, unset⟩ := List.forall_mem_cons.mp unset
    obtain ⟨kept, written⟩ := List.forall_mem_cons.mp written
    obtain ⟨next, later, taken⟩ := readFields_cons h
    rw [write_readFields before later] at kept
    have absent (hw : f.write next = none) (he : next = o) : readFields again (f :: fs) o = .ok p := by
      subst he
      rw [readFields, kept, hw]
      exact ih apart keeps unset later written
    obtain ⟨-, same⟩ | ⟨raw, -, read⟩ := taken
    · subst same
      exact absent (OptionField.write_of_unset here blank) rfl
    · obtain ⟨hw, he⟩ | ⟨text, hw, reread⟩ := OptionField.read_write here blank read
      · exact absent hw he
      · rw [readFields, kept, hw]
        simp only [reread]
        refine ih apart keeps (fun g hg => ?_) later written
        obtain ⟨edit, he, rfl⟩ := OptionField.edit_of_read read
        exact ((before g hg).2 edit he o).trans (congrArg edit (unset g hg))

end

/-- The storage that is read is the text under its key, blanks at its ends aside. -/
theorem storage_ofMap {m : StringMap} {o : VolumeOptions} (h : ofMap m = .ok o) :
    o.storage = Text.trim (m.getText "storage") := by
  have same {a b : String} (written : nonempty a = nonempty b) : a = b := by
    unfold nonempty at written
    split at written <;> split at written <;> simp_all
  obtain ⟨next, later, taken⟩ := readFields_cons h
  have kept : o.storage = next.storage := same (write_readFields (List.pairwise_cons.mp apart_fields).1 later)
  rw [kept, TextMap.getText]
  rcases taken with ⟨absent, rfl⟩ | ⟨raw, found, read⟩
  · rw [show m.get? "storage" = none from absent]
    rfl
  · rw [show m.get? "storage" = some raw from found]
    exact (congrArg storage (OptionField.read_text_iff.mp read).2).symm

/-! ## The map of the options -/

theorem nodup_keys_fields : (fields.map OptionField.key).Nodup := by
  decide

/-- The entries of options that are written. -/
def writtenEntries (fs : List OptionField) (o : VolumeOptions) : List (String × String) :=
  fs.filterMap fun f => (f.write o).map fun text => (f.key, text)

theorem writtenEntries_cons {f : OptionField} {fs : List OptionField} {o : VolumeOptions} :
    writtenEntries (f :: fs) o = ((f.write o).map fun text => (f.key, text)).toList ++ writtenEntries fs o := by
  unfold writtenEntries
  rw [List.filterMap_cons]
  cases f.write o <;> rfl

/-- Only keys of the options are written. -/
theorem key_mem_of_writtenEntries {fs : List OptionField} {o : VolumeOptions} {k : String}
    (h : k ∈ (writtenEntries fs o).map Prod.fst) : k ∈ fs.map OptionField.key := by
  obtain ⟨e, he, rfl⟩ := List.mem_map.mp h
  obtain ⟨f, hf, written⟩ := List.mem_filterMap.mp he
  obtain ⟨text, -, rfl⟩ := Option.map_eq_some_iff.mp written
  exact List.mem_map_of_mem hf

/-- Options under distinct keys are found in a map as they were written into it. -/
theorem get?_insertAll_written {fs : List OptionField} (distinct : (fs.map OptionField.key).Nodup) {m : StringMap}
    {o : VolumeOptions} {f : OptionField} (hf : f ∈ fs) (absent : m.get? f.key = none) :
    (m.insertAll (writtenEntries fs o)).get? f.key = f.write o := by
  induction fs generalizing m with
  | nil => exact absurd hf List.not_mem_nil
  | cons g fs ih =>
    obtain ⟨fresh, distinct⟩ := List.nodup_cons.mp distinct
    rw [writtenEntries_cons, TextMap.insertAll_append]
    rcases List.mem_cons.mp hf with rfl | later
    · rw [TextMap.get?_insertAll_of_notMem fun h => fresh (key_mem_of_writtenEntries h)]
      cases e : f.write o with
      | none => exact absent
      | some text => simp [TextMap.insertAll, TextMap.get?_insert]
    · have other : f.key ≠ g.key := fun same => fresh (same ▸ List.mem_map_of_mem later)
      refine ih distinct later ?_
      cases g.write o with
      | none => exact absent
      | some text => simp [TextMap.insertAll, TextMap.get?_insert, other, absent]

/-- Each option is found in the map of the options as it is written. -/
theorem get?_toMap (o : VolumeOptions) {f : OptionField} (hf : f ∈ fields) : o.toMap.get? f.key = f.write o :=
  get?_insertAll_written nodup_keys_fields hf rfl

/-- The map of the options is read as the options, with whatever entries under other keys. -/
theorem ofMap_toMap_extend {m more : StringMap} {o : VolumeOptions} (h : ofMap m = .ok o)
    (other : ∀ f ∈ fields, f.key ∉ more.keys) : ofMap (o.toMap.extend more) = .ok o := by
  refine readFields_again apart_fields keeps_of_mem unset_of_mem h fun f hf => ?_
  rw [TextMap.get?_extend_of_notMem (other f hf), get?_toMap o hf]

end VolumeOptions

end ClusterVolumes
