import ClusterVolumes.Volume.Handle

/-!
# Reading and writing handles

The text of a handle is cut at its first three slashes (`fourParts?_eq_some_iff`), so what is read from a text is the
well-formed handle that has the text (`parse_eq_ok_iff`). A handle whose first three parts hold no slash is the only one
that is read from its text (`parse_text`), and as the text has three slashes it is not in the older form
(`parseLegacy_text`). In the older form the parts stand between the slashes (`parseLegacy_older`).

The disks of the driver are named after volumes. Such a disk is well formed unless the name of its volume holds a slash
(`isDisk_formattedDisk`).
-/

namespace ClusterVolumes

namespace Text

/-- There is one piece more than there are separators. -/
theorem length_pieces (sep : Char) (s : List Char) : (pieces sep s).length = s.count sep + 1 := by
  induction s with
  | nil => rfl
  | cons c cs ih =>
    unfold pieces
    split
    · rename_i h
      subst h
      simp [ih]
    · rename_i h
      rw [List.count_cons_of_ne (by simpa using h), ← ih]
      cases hp : pieces sep cs with
      | nil => rw [hp] at ih; simp at ih
      | cons p ps => rfl

end Text

namespace VolumeHandle

/-- Four parts are cut at the first three slashes. -/
theorem fourParts?_eq_some_iff {s r z st d : List Char} : fourParts? s = some (r, z, st, d) ↔
    s = r ++ '/' :: (z ++ '/' :: (st ++ '/' :: d)) ∧ '/' ∉ r ∧ '/' ∉ z ∧ '/' ∉ st := by
  unfold fourParts?
  constructor
  · intro h
    obtain ⟨⟨r', rest⟩, hregion, hrest⟩ := Option.bind_eq_some_iff.mp h
    obtain ⟨⟨z', rest'⟩, hzone, hrest'⟩ := Option.bind_eq_some_iff.mp hrest
    obtain ⟨⟨st', d'⟩, hstorage, hparts⟩ := Option.bind_eq_some_iff.mp hrest'
    cases hparts
    obtain ⟨rfl, hr⟩ := Text.cutFirst_eq_some_iff.mp hregion
    obtain ⟨rfl, hz⟩ := Text.cutFirst_eq_some_iff.mp hzone
    obtain ⟨rfl, hst⟩ := Text.cutFirst_eq_some_iff.mp hstorage
    exact ⟨rfl, hr, hz, hst⟩
  · rintro ⟨rfl, hr, hz, hst⟩
    rw [Text.cutFirst_eq_some_iff.mpr ⟨rfl, hr⟩]
    simp only [Option.bind_eq_bind, Option.bind_some]
    rw [Text.cutFirst_eq_some_iff.mpr ⟨rfl, hz⟩]
    simp only [Option.bind_some]
    rw [Text.cutFirst_eq_some_iff.mpr ⟨rfl, hst⟩]
    rfl

theorem toList_text (v : VolumeHandle) : v.text.toList =
    v.region.toList ++ '/' :: (v.zone.toList ++ '/' :: (v.storage.toList ++ '/' :: v.disk.toList)) := by
  simp [text]

/-- No part of a handle but its disk holds a slash. -/
structure SlashFree (v : VolumeHandle) : Prop where
  region : '/' ∉ v.region.toList
  zone : '/' ∉ v.zone.toList
  storage : '/' ∉ v.storage.toList

/-- A handle that is read from its text: its region, storage and disk are not empty, its disk is a file or a file in a
numeric folder, and no other part holds a slash. -/
structure WellFormed (v : VolumeHandle) : Prop extends SlashFree v where
  region_ne : v.region.isEmpty = false
  storage_ne : v.storage.isEmpty = false
  disk_ne : v.disk.isEmpty = false
  isDisk : isDisk v.disk.toList = true

theorem isEmpty_toList (s : String) : s.toList.isEmpty = s.isEmpty := by
  rw [Bool.eq_iff_iff, List.isEmpty_iff, String.isEmpty_iff, ← String.toList_inj]
  rfl

/-- What is read from a text is the well-formed handle that has the text. -/
theorem parse_eq_ok_iff {s : String} {v : VolumeHandle} : parse s = .ok v ↔ v.text = s ∧ v.WellFormed := by
  unfold parse
  constructor
  · intro h
    split at h
    · cases h
    · rename_i r z st d hparts
      obtain ⟨hs, hr, hz, hst⟩ := fourParts?_eq_some_iff.mp hparts
      split at h
      · cases h
      rename_i hregion
      split at h
      · cases h
      rename_i hstorage
      split at h
      · cases h
      rename_i hdisk
      split at h
      · cases h
      rename_i hfile
      cases h
      refine ⟨String.toList_injective (by simp [toList_text, hs]), ⟨?_, ?_, ?_⟩, ?_, ?_, ?_, ?_⟩
      · simpa using hr
      · simpa using hz
      · simpa using hst
      · simpa [← isEmpty_toList] using hregion
      · simpa [← isEmpty_toList] using hstorage
      · simpa [← isEmpty_toList] using hdisk
      · simpa using hfile
  · rintro ⟨rfl, h⟩
    have parts : fourParts? v.text.toList =
        some (v.region.toList, v.zone.toList, v.storage.toList, v.disk.toList) :=
      fourParts?_eq_some_iff.mpr ⟨v.toList_text, h.region, h.zone, h.storage⟩
    simp [parts, isEmpty_toList, h.region_ne, h.storage_ne, h.disk_ne, h.isDisk]

/-- What is read from a text has that text, and its first three parts hold no slash. -/
theorem parse_ok {s : String} {v : VolumeHandle} (h : parse s = .ok v) :
    v.text = s ∧ v.SlashFree ∧ v.storage.isEmpty = false := by
  obtain ⟨ht, hv⟩ := parse_eq_ok_iff.mp h
  exact ⟨ht, hv.toSlashFree, hv.storage_ne⟩

/-- A handle is the only one that is read from its text. -/
theorem parse_text {v w : VolumeHandle} (hv : v.SlashFree) (h : parse v.text = .ok w) : w = v := by
  obtain ⟨ht, hw, -⟩ := parse_ok h
  have parts : ∀ u : VolumeHandle, u.SlashFree →
      fourParts? u.text.toList = some (u.region.toList, u.zone.toList, u.storage.toList, u.disk.toList) := fun u hu =>
    fourParts?_eq_some_iff.mpr ⟨u.toList_text, hu.region, hu.zone, hu.storage⟩
  have same := (parts w hw).symm.trans (ht ▸ parts v hv)
  simp only [Option.some.injEq, Prod.mk.injEq, String.toList_inj] at same
  obtain ⟨hr, hz, hst, hd⟩ := same
  cases v
  cases w
  simp only [mk.injEq]
  exact ⟨hr, hz, hst, hd⟩

/-- The text of a handle has a slash behind each part but the last. -/
theorem three_le_count_text (v : VolumeHandle) : 3 ≤ v.text.toList.count '/' := by
  rw [toList_text]
  simp only [List.count_append, List.count_cons_self]
  omega

/-- A text that has not two slashes is not in the older form. -/
theorem parseLegacy_of_count_ne {s : String} (h : s.toList.count '/' ≠ 2) : parseLegacy s = parse s := by
  unfold parseLegacy
  split
  · rename_i three
    have two : s.toList.count '/' + 1 = 3 := by
      rw [← Text.length_pieces, three]
      rfl
    omega
  · rfl

/-- The text of a handle is not in the older form. -/
theorem parseLegacy_text (v : VolumeHandle) : parseLegacy v.text = parse v.text := by
  have three := v.three_le_count_text
  exact parseLegacy_of_count_ne (by omega)

/-- In the older form the parts stand between the slashes, and the storage comes back empty. -/
theorem parseLegacy_older {r z d : String} (hr : '/' ∉ r.toList) (hz : '/' ∉ z.toList) (hd : '/' ∉ d.toList) :
    parseLegacy (r ++ "/" ++ z ++ "/" ++ d) =
      if r.isEmpty || d.isEmpty then .error (.invalidHandle (r ++ "/" ++ z ++ "/" ++ d) "expected region/zone/disk")
      else .ok ⟨r, z, "", d⟩ := by
  have chars : (r ++ "/" ++ z ++ "/" ++ d).toList = r.toList ++ '/' :: (z.toList ++ '/' :: d.toList) := by simp
  have three : Text.pieces '/' (r ++ "/" ++ z ++ "/" ++ d).toList = [r.toList, z.toList, d.toList] := by
    rw [chars, Text.pieces_append, Text.pieces_append, Text.pieces_of_notMem hr, Text.pieces_of_notMem hz,
      Text.pieces_of_notMem hd]
    rfl
  simp only [parseLegacy, three, isEmpty_toList, String.ofList_toList]

/-- A handle that names its storage is read back from its text when it names another node. -/
theorem parseLegacy_moved {text target : String} {handle : VolumeHandle}
    (h : parseLegacy text = .ok handle) (hs : handle.storage ≠ "") (ht : '/' ∉ target.toList) :
    parseLegacy { handle with zone := target }.text = .ok { handle with zone := target } := by
  have read : parse text = .ok handle := by
    unfold parseLegacy at h
    split at h
    · split at h
      · cases h
      · cases h
        exact absurd rfl hs
    · exact h
  obtain ⟨-, formed⟩ := parse_eq_ok_iff.mp read
  rw [parseLegacy_text]
  refine parse_eq_ok_iff.mpr ⟨rfl, ⟨formed.region, ht, formed.storage⟩, ?_, ?_, ?_, ?_⟩
  · exact formed.region_ne
  · exact formed.storage_ne
  · exact formed.disk_ne
  · exact formed.isDisk

/-- On another node the volume of a text has another text. -/
theorem text_ne_of_zone_ne {text target : String} {v : VolumeHandle} (h : parseLegacy text = .ok v)
    (elsewhere : v.zone ≠ target) : { v with zone := target }.text ≠ text := by
  rintro rfl
  rw [parseLegacy_text] at h
  have same := congrArg String.toList (parse_eq_ok_iff.mp h).1
  rw [toList_text, toList_text] at same
  have rest := (List.cons.inj (List.append_cancel_left same)).2
  exact elsewhere (String.toList_injective (List.append_cancel_right rest))

/-! ## Disks of the driver -/

/-- A file that lies in no folder. -/
theorem layout_of_free {disk : List Char} (h : '/' ∉ disk) : layout disk = ([], disk) := by
  rw [layout, Text.cutFirst_eq_none_iff.mpr h]
  rfl

/-- A file in a folder. -/
theorem layout_folder {folder file : List Char} (h : '/' ∉ folder) :
    layout (folder ++ '/' :: file) = (folder, file) := by
  rw [layout, Text.cutFirst_eq_some_iff.mpr ⟨rfl, h⟩]
  rfl

/-- A disk in no folder is its own file. -/
theorem filename_eq_disk {v : VolumeHandle} (h : '/' ∉ v.disk.toList) : v.filename = v.disk := by
  rw [filename, layout_of_free h]
  exact String.ofList_toList

/-- The file of a disk in a folder. -/
theorem toList_filename {v : VolumeHandle} {folder file : List Char} (hd : v.disk.toList = folder ++ '/' :: file)
    (h : '/' ∉ folder) : v.filename.toList = file := by
  rw [filename, hd, layout_folder h]
  exact String.toList_ofList

theorem toList_provisioned (name : String) :
    (DiskName.provisioned name).toList = ['v', 'm', '-', '9', '9', '9', '9', '-'] ++ name.toList := by
  have start : ("vm-" ++ toString DiskName.reservedVm ++ "-").toList = ['v', 'm', '-', '9', '9', '9', '9', '-'] := by
    decide +kernel
  rw [DiskName.provisioned, String.toList_append, start]

/-- The machine number of a disk of the driver. -/
theorem vmNumber_provisioned (name : String) : DiskName.vmNumber (DiskName.provisioned name) = "9999" := by
  rw [DiskName.vmNumber, toList_provisioned]
  rfl

/-- The text of a disk of the driver that has a format: it lies in the folder of its machine. -/
theorem toList_formattedDisk (name : String) {format : String} (h : format.isEmpty = false) :
    (formattedDisk (DiskName.provisioned name) format).toList =
      ['9', '9', '9', '9'] ++ '/' :: ((DiskName.provisioned name).toList ++ '.' :: format.toList) := by
  rw [formattedDisk, h, vmNumber_provisioned]
  simp

theorem formattedDisk_ne (name format : String) :
    (formattedDisk (DiskName.provisioned name) format).isEmpty = false := by
  rw [← isEmpty_toList]
  by_cases h : format.isEmpty = true
  · rw [formattedDisk, if_pos h, toList_provisioned]
    rfl
  · rw [toList_formattedDisk name (by simpa using h)]
    rfl

/-- The disk of a volume can be read unless the name of the volume holds a slash. -/
theorem isDisk_formattedDisk (name : String) {format : String} (h : '/' ∉ format.toList) :
    isDisk (formattedDisk (DiskName.provisioned name) format).toList = true ↔ '/' ∉ name.toList := by
  have free : '/' ∉ (DiskName.provisioned name).toList ↔ '/' ∉ name.toList := by
    rw [toList_provisioned]
    simp
  by_cases hf : format.isEmpty = true
  · rw [formattedDisk, if_pos hf, ← free, isDisk]
    split
    · rename_i hcut
      simpa using Text.cutFirst_eq_none_iff.mp hcut
    · -- the folder would begin with the letter of the machine mark
      rename_i folder file hcut
      obtain ⟨e, hfolder⟩ := Text.cutFirst_eq_some_iff.mp hcut
      have held : '/' ∈ (DiskName.provisioned name).toList := by simp [e]
      rw [toList_provisioned] at e
      cases folder with
      | nil => cases e
      | cons c cs =>
        obtain ⟨rfl, -⟩ := List.cons.inj e
        simp [held, show DiskName.isDigit 'v' = false by decide]
  · have hne : format.isEmpty = false := by simpa using hf
    have cut := Text.cutFirst_eq_some_iff.mpr
      ⟨toList_formattedDisk name hne, show '/' ∉ ['9', '9', '9', '9'] by decide⟩
    rw [← free, isDisk, cut]
    simp [h, show DiskName.isDigit '9' = true by decide]

end VolumeHandle

end ClusterVolumes
