import ClusterVolumes.Proofs.Volume.HandleLanguage

/-!
# The older form of handles

A text in the older form, `region/zone/disk`, has exactly two slashes (`InOlderForm`), and the text of a handle has at
least three. So no text is in both forms (`InOlderForm.not_parse`), and the reader of both adds exactly the older form to
what is read in the present one (`parseLegacy_eq_ok_iff`).

What is read in the older form lacks a storage, so its own text is refused (`InOlderForm.parseLegacy_text_eq`). Once it is
told the storage, it is a handle like any other (`InOlderForm.canonical`).
-/

namespace ClusterVolumes

/-- A text of one separator more is cut at its first one. -/
theorem Text.exists_first_cut {sep : Char} {cs : List Char} {n : Nat} (h : cs.count sep = n + 1) :
    ∃ a b, cs = a ++ sep :: b ∧ sep ∉ a ∧ b.count sep = n := by
  have mem : sep ∈ cs := List.count_pos_iff.mp (by omega)
  obtain ⟨a, b, rfl, free⟩ := List.eq_append_cons_of_mem mem
  rw [List.count_append, List.count_cons_self, List.count_eq_zero.mpr free] at h
  exact ⟨a, b, rfl, free, by omega⟩

namespace VolumeHandle

/-! ## Texts in the older form -/

/-- A text of exactly two slashes, of whose parts the first and the last are not empty, and the handle with these parts
as its region, zone and disk and without a storage. -/
structure InOlderForm (s : String) (v : VolumeHandle) : Prop where
  slashes : s.toList.count '/' = 2
  parts : s = v.region ++ "/" ++ v.zone ++ "/" ++ v.disk
  region_ne : v.region ≠ ""
  disk_ne : v.disk ≠ ""
  storage : v.storage = ""

variable {s : String} {v w : VolumeHandle}

/-- Two slashes part a text in three. -/
theorem exists_three_parts (h : s.toList.count '/' = 2) : ∃ r z d : String,
    s = r ++ "/" ++ z ++ "/" ++ d ∧ '/' ∉ r.toList ∧ '/' ∉ z.toList ∧ '/' ∉ d.toList := by
  obtain ⟨r, rest, hs, hr, one⟩ := Text.exists_first_cut h
  obtain ⟨z, d, rfl, hz, none⟩ := Text.exists_first_cut one
  refine ⟨String.ofList r, String.ofList z, String.ofList d, String.toList_injective ?_, ?_, ?_, ?_⟩
  · simp [hs]
  · simpa using hr
  · simpa using hz
  · simpa using List.count_eq_zero.mp none

namespace InOlderForm

/-- The slashes of the text are those between its parts. -/
theorem free (h : InOlderForm s v) : '/' ∉ v.region.toList ∧ '/' ∉ v.zone.toList ∧ '/' ∉ v.disk.toList := by
  have chars : s.toList = v.region.toList ++ '/' :: (v.zone.toList ++ '/' :: v.disk.toList) := by
    rw [h.parts]
    simp
  have two := h.slashes
  rw [chars, List.count_append, List.count_cons_self, List.count_append, List.count_cons_self] at two
  refine ⟨List.count_eq_zero.mp ?_, List.count_eq_zero.mp ?_, List.count_eq_zero.mp ?_⟩ <;> omega

theorem slashFree (h : InOlderForm s v) : v.SlashFree := by
  refine ⟨h.free.1, h.free.2.1, ?_⟩
  rw [h.storage]
  exact List.not_mem_nil

/-- A text in the older form is not in the present one. -/
theorem not_parse (h : InOlderForm s v) : parse s ≠ .ok w := by
  intro read
  have three := w.three_le_count_text
  rw [(parse_eq_ok_iff.mp read).1, h.slashes] at three
  omega

/-- A text in the older form is read as the handle with its parts. -/
theorem parseLegacy_eq (h : InOlderForm s v) : parseLegacy s = .ok v := by
  obtain ⟨hr, hz, hd⟩ := h.free
  have some : ¬(v.region.isEmpty || v.disk.isEmpty) = true := by simp [h.region_ne, h.disk_ne]
  rw [h.parts, parseLegacy_older hr hz hd, if_neg some, ← h.storage]

end InOlderForm

/-- The reader of both forms reads what is in either of them. -/
theorem parseLegacy_eq_ok_iff : parseLegacy s = .ok v ↔ parse s = .ok v ∨ InOlderForm s v := by
  constructor
  · intro read
    by_cases two : s.toList.count '/' = 2
    · obtain ⟨r, z, d, rfl, hr, hz, hd⟩ := exists_three_parts two
      rw [parseLegacy_older hr hz hd] at read
      split at read
      · cases read
      · rename_i named
        cases read
        obtain ⟨region_ne, disk_ne⟩ : r ≠ "" ∧ d ≠ "" := by simpa using named
        exact .inr ⟨two, rfl, region_ne, disk_ne, rfl⟩
    · rw [parseLegacy_of_count_ne two] at read
      exact .inl read
  · rintro (read | older)
    · obtain ⟨rfl, -⟩ := parse_eq_ok_iff.mp read
      rw [parseLegacy_text, read]
    · exact older.parseLegacy_eq

/-! ## Handles without a storage -/

/-- The text of a handle without a storage is refused for that. -/
theorem parse_text_of_storage_eq (free : v.SlashFree) (named : v.region ≠ "") (lacks : v.storage = "") :
    parse v.text = .error (.invalidHandle v.text "storage is empty") := by
  have parts : fourParts? v.text.toList = some (v.region.toList, v.zone.toList, v.storage.toList, v.disk.toList) :=
    fourParts?_eq_some_iff.mpr ⟨v.toList_text, free.region, free.zone, free.storage⟩
  simp [parse, parts, isEmpty_toList, named, lacks]

namespace InOlderForm

/-- What is read in the older form has a text that is in neither form. -/
theorem parseLegacy_text_eq (h : InOlderForm s v) :
    parseLegacy v.text = .error (.invalidHandle v.text "storage is empty") := by
  rw [parseLegacy_text]
  exact parse_text_of_storage_eq h.slashFree h.region_ne h.storage

/-- What is read in the older form is a handle once it is told its storage. -/
theorem canonical (h : InOlderForm s v) {storage : String} (hs : storage ≠ "" ∧ '/' ∉ storage.toList) :
    Canonical { v with storage := storage } := by
  obtain ⟨hr, hz, hd⟩ := h.free
  have disk_ne : v.disk.toList ≠ [] := fun none => h.disk_ne (String.toList_eq_nil_iff.mp none)
  exact ⟨⟨h.region_ne, hr⟩, hz, hs, .inl ⟨disk_ne, hd⟩⟩

end InOlderForm

/-- **What the older form adds.** A text is read if it is in the present form or in the older one, as the handle that it
has there, and no text is in both. What is read in the older form has a text that is refused. Once it is told a
storage, its text has the storage between zone and disk and is read as that handle, whose device path is the same. -/
theorem older_form_added :
    (∀ s v, parseLegacy s = .ok v ↔ parse s = .ok v ∨ InOlderForm s v) ∧
      (∀ s, ¬((∃ v, parse s = .ok v) ∧ ∃ v, InOlderForm s v)) ∧
      ∀ s v, InOlderForm s v →
        parseLegacy v.text = .error (.invalidHandle v.text "storage is empty") ∧
          ∀ storage, storage ≠ "" → '/' ∉ storage.toList →
            { v with storage := storage }.text = v.region ++ "/" ++ v.zone ++ "/" ++ storage ++ "/" ++ v.disk ∧
              parse { v with storage := storage }.text = .ok { v with storage := storage } ∧
              { v with storage := storage }.devicePath = v.devicePath := by
  refine ⟨fun s v => parseLegacy_eq_ok_iff, ?_, ?_⟩
  · rintro s ⟨⟨v, read⟩, w, older⟩
    exact older.not_parse read
  · intro s v older
    refine ⟨older.parseLegacy_text_eq, fun storage named free => ⟨rfl, ?_, rfl⟩⟩
    exact parse_eq_ok_iff_canonical.mpr ⟨older.canonical ⟨named, free⟩, rfl⟩

/-- A handle in the older form is read, and read again once it is told its storage. -/
theorem older_form_added_local :
    parseLegacy "region-1/pve-1/vm-9999-pvc-1" = .ok ⟨"region-1", "pve-1", "", "vm-9999-pvc-1"⟩ ∧
      parse "region-1/pve-1/local-lvm/vm-9999-pvc-1" = .ok ⟨"region-1", "pve-1", "local-lvm", "vm-9999-pvc-1"⟩ := by
  have older : InOlderForm "region-1/pve-1/vm-9999-pvc-1" ⟨"region-1", "pve-1", "", "vm-9999-pvc-1"⟩ :=
    ⟨by decide, by decide, by decide, by decide, rfl⟩
  obtain ⟨reads, -, again⟩ := older_form_added
  obtain ⟨text, read, -⟩ := (again _ _ older).2 "local-lvm" (by decide) (by decide)
  rw [text] at read
  exact ⟨(reads _ _).mpr (.inr older), read⟩

end VolumeHandle

end ClusterVolumes
