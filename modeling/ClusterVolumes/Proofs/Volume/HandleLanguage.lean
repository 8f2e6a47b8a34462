import ClusterVolumes.Proofs.Volume.HandleText
import Mathlib.Data.Set.Function

/-!
# The language of handles

Which texts are handles is said here without the reader: `IsHandleText` is `region/zone/storage/disk` with slashes in no
part but the disk, which is a file or a file in a folder whose name is a number (`IsDiskName`). `Canonical` says the
same of the parts of a handle.

The reader accepts exactly these texts, and reading undoes writing as writing undoes reading (`text_bijOn_handleTexts`).
So two handles of this form never have one text.
-/

namespace ClusterVolumes.VolumeHandle

/-! ## Texts and parts -/

/-- A file name, or a number and a file name with a slash between them. -/
def IsDiskName (disk : List Char) : Prop :=
  (disk ≠ [] ∧ '/' ∉ disk) ∨
    ∃ folder file, disk = folder ++ '/' :: file ∧ folder ≠ [] ∧ (∀ c ∈ folder, c.isDigit = true) ∧ file ≠ [] ∧
      '/' ∉ file

/-- Four parts with slashes between them, of which only the zone may be empty and only the disk may hold a slash. -/
def IsHandleText (s : String) : Prop :=
  ∃ region zone storage disk : List Char,
    s.toList = region ++ ['/'] ++ zone ++ ['/'] ++ storage ++ ['/'] ++ disk ∧
      (region ≠ [] ∧ '/' ∉ region) ∧ '/' ∉ zone ∧ (storage ≠ [] ∧ '/' ∉ storage) ∧ IsDiskName disk

/-- The parts of a handle are such as a text of a handle has. -/
structure Canonical (v : VolumeHandle) : Prop where
  region : v.region ≠ "" ∧ '/' ∉ v.region.toList
  zone : '/' ∉ v.zone.toList
  storage : v.storage ≠ "" ∧ '/' ∉ v.storage.toList
  disk : IsDiskName v.disk.toList

/-! ## Disks -/

theorem isDigit_eq (c : Char) : DiskName.isDigit c = c.isDigit := by
  simp [DiskName.isDigit, Char.isDigit, Char.le_def]

/-- The reader takes a disk for well formed exactly if it has the name of one. -/
theorem isDiskName_iff (disk : List Char) : IsDiskName disk ↔ disk ≠ [] ∧ isDisk disk = true := by
  cases hcut : Text.cutFirst '/' disk with
  | none =>
    have free : '/' ∉ disk := Text.cutFirst_eq_none_iff.mp hcut
    have plain : isDisk disk = true := by simp [isDisk, hcut]
    constructor
    · rintro (⟨hne, -⟩ | ⟨folder, file, rfl, -⟩)
      · exact ⟨hne, plain⟩
      · exact absurd (by simp) free
    · rintro ⟨hne, -⟩
      exact .inl ⟨hne, free⟩
  | some cut =>
    obtain ⟨folder, file⟩ := cut
    obtain ⟨rfl, hfolder⟩ := Text.cutFirst_eq_some_iff.mp hcut
    have read : isDisk (folder ++ '/' :: file) = true ↔
        folder ≠ [] ∧ (∀ c ∈ folder, c.isDigit = true) ∧ file ≠ [] ∧ '/' ∉ file := by
      simp [isDisk, hcut, isDigit_eq, and_assoc]
    rw [read]
    constructor
    · rintro (⟨-, hfree⟩ | ⟨folder', file', e, h⟩)
      · exact absurd (by simp) hfree
      · -- a folder that is a number has no slash, so both cuts are the first one
        have digits : '/' ∉ folder' := fun hslash => absurd (h.2.1 '/' hslash) (by decide)
        have same := Text.cutFirst_eq_some_iff.mpr ⟨e, digits⟩
        rw [hcut] at same
        cases same
        exact ⟨by simp, h⟩
    · rintro ⟨-, h⟩
      exact .inr ⟨folder, file, rfl, h⟩

/-! ## Handles -/

theorem canonical_iff_wellFormed (v : VolumeHandle) : v.Canonical ↔ v.WellFormed := by
  have isEmpty_iff : ∀ s : String, s.isEmpty = false ↔ s ≠ "" := fun s => by simp
  have disk_ne : v.disk ≠ "" ↔ v.disk.toList ≠ [] := String.toList_eq_nil_iff.not.symm
  constructor
  · intro h
    obtain ⟨hne, hdisk⟩ := (isDiskName_iff _).mp h.disk
    exact ⟨⟨h.region.2, h.zone, h.storage.2⟩, (isEmpty_iff _).mpr h.region.1, (isEmpty_iff _).mpr h.storage.1,
      (isEmpty_iff _).mpr (disk_ne.mpr hne), hdisk⟩
  · intro h
    have hne : v.disk.toList ≠ [] := disk_ne.mp ((isEmpty_iff _).mp h.disk_ne)
    exact ⟨⟨(isEmpty_iff _).mp h.region_ne, h.region⟩, h.zone, ⟨(isEmpty_iff _).mp h.storage_ne, h.storage⟩,
      (isDiskName_iff _).mpr ⟨hne, h.isDisk⟩⟩

/-- What is read from a text is the canonical handle that has the text. -/
theorem parse_eq_ok_iff_canonical {s : String} {v : VolumeHandle} : parse s = .ok v ↔ v.Canonical ∧ v.text = s := by
  rw [parse_eq_ok_iff, canonical_iff_wellFormed, and_comm]

/-- The texts of handles are those of canonical handles. -/
theorem isHandleText_iff (s : String) : IsHandleText s ↔ ∃ v : VolumeHandle, v.Canonical ∧ v.text = s := by
  have toList_ne : ∀ s : String, s ≠ "" ↔ s.toList ≠ [] := fun s => String.toList_eq_nil_iff.not.symm
  constructor
  · rintro ⟨region, zone, storage, disk, hs, hr, hz, hst, hd⟩
    refine ⟨⟨String.ofList region, String.ofList zone, String.ofList storage, String.ofList disk⟩, ?_, ?_⟩
    · constructor
      · simpa [toList_ne] using hr
      · simpa using hz
      · simpa [toList_ne] using hst
      · simpa using hd
    · refine String.toList_injective ?_
      rw [toList_text, hs]
      simp
  · rintro ⟨v, h, rfl⟩
    refine ⟨v.region.toList, v.zone.toList, v.storage.toList, v.disk.toList, ?_, ?_, h.zone, ?_, h.disk⟩
    · rw [toList_text]
      simp
    · exact ⟨(toList_ne _).mp h.region.1, h.region.2⟩
    · exact ⟨(toList_ne _).mp h.storage.1, h.storage.2⟩

/-- **Handles and their texts.** A text is read exactly if it is one of a handle; what is read from a text has that
text, and a canonical handle is read from its text. So writing is a bijection from the canonical handles to the texts
of handles: no two of them share a text. -/
theorem text_bijOn_handleTexts :
    (∀ s, (∃ v, parse s = .ok v) ↔ IsHandleText s) ∧ (∀ s v, parse s = .ok v ↔ v.Canonical ∧ v.text = s) ∧
      Set.BijOn text {v | v.Canonical} {s | IsHandleText s} := by
  have accepts : ∀ s, (∃ v, parse s = .ok v) ↔ IsHandleText s := fun s => by
    simp only [isHandleText_iff, parse_eq_ok_iff_canonical]
  refine ⟨accepts, fun s v => parse_eq_ok_iff_canonical, ?_, ?_, ?_⟩
  · intro v hv
    exact (isHandleText_iff _).mpr ⟨v, hv, rfl⟩
  · intro v hv w hw hvw
    have read := parse_eq_ok_iff_canonical.mpr ⟨hv, rfl⟩
    rw [hvw, parse_eq_ok_iff_canonical.mpr ⟨hw, rfl⟩] at read
    exact (Except.ok.inj read).symm
  · intro s hs
    obtain ⟨v, hv, ht⟩ := (isHandleText_iff s).mp hs
    exact ⟨v, hv, ht⟩

end ClusterVolumes.VolumeHandle
