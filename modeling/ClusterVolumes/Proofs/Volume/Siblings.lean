import ClusterVolumes.Proofs.Volume.DiskLayout

/-!
# Siblings of disks

A sibling is a new disk beside another one: the folder and the format of the first are put together with another name
(`sibling_eq`). Cut again, it gives the same folder and the same format, provided that the new name does not tell a format
of its own where there was none (`siblingOf_sibling`). So siblings of a sibling are siblings (`sibling_congr`), and a disk is
its own sibling under its own name (`exists_own_name`).
-/

namespace ClusterVolumes.VolumeHandle

variable {v w : VolumeHandle} {name : String}

/-- A name for a file beside a disk. If the disk tells no format, neither must the name. -/
structure IsNewName (v : VolumeHandle) (name : String) : Prop where
  ne : name ≠ ""
  free : '/' ∉ name.toList
  plain : v.format = "" → ∀ format ∈ formats, ¬(ending format).toList <:+ name.toList

/-- A handle is read from its text, and its file is beside the disk of another one, of the same format and with a name of
its own. -/
structure SiblingOf (v : VolumeHandle) (name : String) (w : VolumeHandle) : Prop where
  region : w.region = v.region
  zone : w.zone = v.zone
  storage : w.storage = v.storage
  folder : w.folder = v.folder
  format : w.format = v.format
  filename : w.filename = name ++ ending v.format
  read : parse w.text = .ok w

/-- The disk of a sibling is made of the folder, the new name and the format. -/
theorem sibling_eq (v : VolumeHandle) (name : String) :
    v.sibling name = { v with disk := diskIn v.folder (name ++ ending v.format) } := by
  unfold sibling diskIn ending
  by_cases unformatted : v.format = ""
  · by_cases none : v.folder = "" <;> simp [unformatted, none]
  · by_cases none : v.folder = "" <;> simp [unformatted, none, String.append_assoc]

theorem Canonical.places_sibling (h : v.Canonical) (hn : IsNewName v name) :
    Places v.folder (name ++ ending v.format) where
  digits := h.places.1.digits
  file_ne := fun none => hn.ne (String.append_eq_empty_iff.mp none).1
  file_free := by
    rw [String.toList_append, List.mem_append, not_or, format_eq]
    exact ⟨hn.free, slash_notMem_ending (slash_notMem_of_isFormat (isFormat_formatOf _))⟩

/-- A new name with the format behind it tells that format. -/
theorem formatOf_sibling (hn : IsNewName v name) : formatOf (name ++ ending v.format).toList = v.format := by
  have known : IsFormat v.format := by
    rw [format_eq]
    exact isFormat_formatOf _
  rcases known with unformatted | known
  · rw [unformatted, ending, if_pos rfl, String.append_empty]
    exact formatOf_eq_empty_iff.mpr (hn.plain unformatted)
  · rw [formatOf_eq_iff known, String.toList_append]
    exact List.suffix_append _ _

theorem siblingOf_sibling (h : v.Canonical) (hn : IsNewName v name) : SiblingOf v name (v.sibling name) := by
  have places := h.places_sibling hn
  have canonical : Canonical { v with disk := diskIn v.folder (name ++ ending v.format) } :=
    ⟨h.region, h.zone, h.storage, places.isDiskName⟩
  have filename := places.filename_eq (v := { v with disk := diskIn v.folder (name ++ ending v.format) }) rfl
  rw [sibling_eq]
  constructor
  · rfl
  · rfl
  · rfl
  · exact places.folder_eq rfl
  · rw [format_eq, filename, formatOf_sibling hn]
  · exact filename
  · exact parse_eq_ok_iff_canonical.mpr ⟨canonical, rfl⟩

/-- Handles of one place, folder and format have the same siblings. -/
theorem sibling_congr (region : w.region = v.region) (zone : w.zone = v.zone) (storage : w.storage = v.storage)
    (folder : w.folder = v.folder) (format : w.format = v.format) (name : String) : w.sibling name = v.sibling name := by
  unfold sibling
  simp only [region, zone, storage, folder, format]

/-- A disk is its own sibling under what its file is called without its format. -/
theorem exists_own_name (h : v.Canonical) : ∃ stem, v.filename = stem ++ ending v.format ∧ v.sibling stem = v := by
  obtain ⟨stem, whole⟩ := ending_formatOf_suffix v.filename.toList
  have file : v.filename = String.ofList stem ++ ending v.format := by
    refine String.toList_injective ?_
    rw [format_eq, String.toList_append, String.toList_ofList, whole]
  refine ⟨String.ofList stem, file, ?_⟩
  rw [sibling_eq, ← file, ← h.places.2]

/-- **Siblings.** For every handle that is read from a text and every new name, the sibling has the same region, zone,
storage, folder and format, its file is called so, and it is read from its text; and its own siblings are those of the
first. Under what its file is called without its format, a handle is its own sibling. -/
theorem sibling_faithful (s : String) (v : VolumeHandle) (h : parse s = .ok v) :
    (∀ name, IsNewName v name →
      SiblingOf v name (v.sibling name) ∧ ∀ other, (v.sibling name).sibling other = v.sibling other) ∧
      ∃ stem, v.filename = stem ++ ending v.format ∧ v.sibling stem = v := by
  obtain ⟨canonical, -⟩ := parse_eq_ok_iff_canonical.mp h
  refine ⟨fun name hn => ?_, exists_own_name canonical⟩
  have sibling := siblingOf_sibling canonical hn
  refine ⟨sibling, fun other => ?_⟩
  exact sibling_congr sibling.region sibling.zone sibling.storage sibling.folder sibling.format other

/-- The sibling of a file with a format has it behind a name that looks like one of another format. -/
theorem sibling_faithful_dotted :
    SiblingOf ⟨"r1", "pve-1", "local", "9999/vm-9999-pvc-1.raw"⟩ "a.b.qcow2"
      ⟨"r1", "pve-1", "local", "9999/a.b.qcow2.raw"⟩ := by
  have read : parse "r1/pve-1/local/9999/vm-9999-pvc-1.raw" =
      .ok ⟨"r1", "pve-1", "local", "9999/vm-9999-pvc-1.raw"⟩ := by decide +kernel
  obtain ⟨siblings, -⟩ := sibling_faithful _ _ read
  exact (siblings "a.b.qcow2" ⟨by decide, by decide, by decide⟩).1

end ClusterVolumes.VolumeHandle
