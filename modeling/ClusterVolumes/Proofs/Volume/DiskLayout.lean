import ClusterVolumes.Proofs.Volume.HandleLanguage

/-!
# Folders, files and formats

A disk is a file that lies in a numbered folder or in none, and `diskIn` puts folder and file together. The name of a disk
is cut into these two and no others (`Places.folder_eq`, `Places.filename_eq`), and every disk that can be read is made
of them (`exists_places`).

The format of a file is told by what stands behind its last dot. A file tells a format exactly if it ends in a dot and
that format (`formatOf_eq_iff`), and none exactly if it ends so in no format (`formatOf_eq_empty_iff`).
-/

namespace ClusterVolumes

namespace Text

variable {sep : Char} {s a b : List Char}

/-- There is no last cut exactly where there is no separator. -/
theorem cutLast_eq_none_iff : cutLast sep s = none ↔ sep ∉ s := by
  induction s with
  | nil => simp [cutLast]
  | cons c cs ih =>
    rw [cutLast, List.mem_cons, not_or, ← ih]
    cases cutLast sep cs with
    | some cut => simp
    | none =>
      by_cases h : c = sep
      · simp [h]
      · simp [h, Ne.symm h]

/-- A last cut is the one way to write the text around its last separator. -/
theorem cutLast_eq_some_iff : cutLast sep s = some (a, b) ↔ s = a ++ sep :: b ∧ sep ∉ b := by
  induction s generalizing a with
  | nil => simp [cutLast]
  | cons c cs ih =>
    rw [cutLast]
    cases hcut : cutLast sep cs with
    | some cut =>
      obtain ⟨a', b'⟩ := cut
      simp only [hcut, Option.some.injEq, Prod.mk.injEq] at ih ⊢
      have held : sep ∈ cs := by
        by_contra free
        simp [cutLast_eq_none_iff.mpr free] at hcut
      cases a with
      | nil =>
        constructor
        · rintro ⟨e, -⟩
          cases e
        · rintro ⟨e, free⟩
          obtain ⟨-, rfl⟩ := List.cons.inj e
          exact absurd held free
      | cons x xs =>
        rw [List.cons_append, List.cons.injEq, List.cons.injEq, and_assoc, and_assoc, ih]
    | none =>
      have free : sep ∉ cs := cutLast_eq_none_iff.mp hcut
      by_cases h : c = sep
      · subst h
        simp only [if_true, Option.some.injEq, Prod.mk.injEq]
        constructor
        · rintro ⟨rfl, rfl⟩
          exact ⟨rfl, free⟩
        · rintro ⟨e, -⟩
          cases a with
          | nil => exact ⟨rfl, (List.cons.inj e).2⟩
          | cons x xs =>
            obtain ⟨-, rfl⟩ := List.cons.inj e
            exact absurd (by simp) free
      · simp only [if_neg h, reduceCtorEq, false_iff]
        rintro ⟨e, -⟩
        have mem : sep ∈ c :: cs := by simp [e]
        rcases List.mem_cons.mp mem with rfl | mem
        · exact h rfl
        · exact free mem

end Text

namespace VolumeHandle

variable {v : VolumeHandle} {folder file format disk : String}

/-! ## Formats of files -/

/-- What stands behind the name of a file of a format: a dot and the format, and nothing if there is no format. -/
def ending (format : String) : String :=
  if format = "" then "" else "." ++ format

/-- No format, or one of those that a file name may tell. -/
def IsFormat (format : String) : Prop :=
  format = "" ∨ format ∈ formats

theorem ne_empty_of_mem_formats (h : format ∈ formats) : format ≠ "" := by
  rintro rfl
  exact absurd h (by decide)

theorem dot_notMem_of_mem_formats (h : format ∈ formats) : '.' ∉ format.toList := by
  have all : ∀ f ∈ formats, '.' ∉ f.toList := by decide
  exact all format h

theorem slash_notMem_of_isFormat (h : IsFormat format) : '/' ∉ format.toList := by
  have all : ∀ f ∈ formats, '/' ∉ f.toList := by decide
  rcases h with rfl | h
  · exact List.not_mem_nil
  · exact all format h

theorem toList_ending (h : format ≠ "") : (ending format).toList = '.' :: format.toList := by
  rw [ending, if_neg h, String.toList_append]
  rfl

theorem slash_notMem_ending (h : '/' ∉ format.toList) : '/' ∉ (ending format).toList := by
  by_cases none : format = ""
  · subst none
    exact List.not_mem_nil
  · rw [toList_ending none, List.mem_cons, not_or]
    exact ⟨by decide, h⟩

/-- A file is cut in one way into a name, a dot and a format, as a format has no dot. -/
theorem dotted_inj {stem stem' : List Char} {format' : String} (h : format ∈ formats) (h' : format' ∈ formats)
    (same : stem ++ '.' :: format.toList = stem' ++ '.' :: format'.toList) : stem = stem' ∧ format = format' := by
  have cut : Text.cutLast '.' (stem ++ '.' :: format.toList) = some (stem, format.toList) :=
    Text.cutLast_eq_some_iff.mpr ⟨rfl, dot_notMem_of_mem_formats h⟩
  rw [same, Text.cutLast_eq_some_iff.mpr ⟨rfl, dot_notMem_of_mem_formats h'⟩] at cut
  simp only [Option.some.injEq, Prod.mk.injEq, String.toList_inj] at cut
  exact ⟨cut.1.symm, cut.2.symm⟩

/-- A file tells no format but a known one. -/
theorem isFormat_formatOf (cs : List Char) : IsFormat (formatOf cs) := by
  unfold formatOf
  split
  · split
    · rename_i known
      exact .inr (by simpa using known)
    · exact .inl rfl
  · exact .inl rfl

/-- A file tells a format exactly if it ends in a dot and that format. -/
theorem formatOf_eq_iff {cs : List Char} (h : format ∈ formats) :
    formatOf cs = format ↔ (ending format).toList <:+ cs := by
  have some : format ≠ "" := ne_empty_of_mem_formats h
  rw [toList_ending some]
  constructor
  · intro told
    unfold formatOf at told
    split at told
    · rename_i stem suffix hcut
      split at told
      · obtain ⟨rfl, -⟩ := Text.cutLast_eq_some_iff.mp hcut
        rw [← told, String.toList_ofList]
        exact List.suffix_append _ _
      · exact absurd told.symm some
    · exact absurd told.symm some
  · rintro ⟨stem, rfl⟩
    rw [formatOf, Text.cutLast_eq_some_iff.mpr ⟨rfl, dot_notMem_of_mem_formats h⟩]
    simp [h]

/-- A file tells no format exactly if it ends in none of them. -/
theorem formatOf_eq_empty_iff {cs : List Char} :
    formatOf cs = "" ↔ ∀ format ∈ formats, ¬(ending format).toList <:+ cs := by
  constructor
  · intro none format h ends
    have told := (formatOf_eq_iff h).mpr ends
    exact ne_empty_of_mem_formats h (told.symm.trans none)
  · intro plain
    rcases isFormat_formatOf cs with none | known
    · exact none
    · exact absurd ((formatOf_eq_iff known).mp rfl) (plain _ known)

/-- A file has the ending of the format that it tells. -/
theorem ending_formatOf_suffix (cs : List Char) : (ending (formatOf cs)).toList <:+ cs := by
  rcases isFormat_formatOf cs with none | known
  · rw [none]
    exact List.nil_suffix
  · exact (formatOf_eq_iff known).mp rfl

/-! ## Folders and files -/

/-- The disk of a file in a folder, or in no folder if that has no name. -/
def diskIn (folder file : String) : String :=
  if folder = "" then file else folder ++ "/" ++ file

/-- A folder, which is none or has a number for its name, and a file. -/
structure Places (folder file : String) : Prop where
  digits : ∀ c ∈ folder.toList, c.isDigit = true
  file_ne : file ≠ ""
  file_free : '/' ∉ file.toList

theorem toList_diskIn (h : folder ≠ "") : (diskIn folder file).toList = folder.toList ++ '/' :: file.toList := by
  rw [diskIn, if_neg h]
  simp

namespace Places

theorem folder_free (h : Places folder file) : '/' ∉ folder.toList :=
  fun slash => absurd (h.digits '/' slash) (by decide)

/-- Folder and file make the name of a disk. -/
theorem isDiskName (h : Places folder file) : IsDiskName (diskIn folder file).toList := by
  have file_ne : file.toList ≠ [] := fun none => h.file_ne (String.toList_eq_nil_iff.mp none)
  by_cases none : folder = ""
  · subst none
    exact .inl ⟨file_ne, h.file_free⟩
  · have folder_ne : folder.toList ≠ [] := fun e => none (String.toList_eq_nil_iff.mp e)
    exact .inr ⟨folder.toList, file.toList, toList_diskIn none, folder_ne, h.digits, file_ne, h.file_free⟩

/-- The name of a disk is cut into the folder and the file of which it is made. -/
theorem layout_diskIn (h : Places folder file) : layout (diskIn folder file).toList = (folder.toList, file.toList) := by
  by_cases none : folder = ""
  · subst none
    exact layout_of_free h.file_free
  · rw [toList_diskIn none]
    exact layout_folder h.folder_free

theorem folder_eq (h : Places folder file) (hd : v.disk = diskIn folder file) : v.folder = folder := by
  rw [VolumeHandle.folder, hd, h.layout_diskIn, String.ofList_toList]

theorem filename_eq (h : Places folder file) (hd : v.disk = diskIn folder file) : v.filename = file := by
  rw [filename, hd, h.layout_diskIn, String.ofList_toList]

end Places

/-- The format of a disk is the one that its file tells. -/
theorem format_eq (v : VolumeHandle) : v.format = formatOf v.filename.toList := by
  rw [format, filename, String.toList_ofList]

/-- Every disk that can be read is made of a folder and a file. -/
theorem exists_places (h : IsDiskName disk.toList) : ∃ folder file, Places folder file ∧ disk = diskIn folder file := by
  rcases h with ⟨disk_ne, free⟩ | ⟨folder, file, e, folder_ne, digits, file_ne, free⟩
  · exact ⟨"", disk, ⟨nofun, fun none => disk_ne (String.toList_eq_nil_iff.mpr none), free⟩, rfl⟩
  · refine ⟨String.ofList folder, String.ofList file, ⟨?_, ?_, ?_⟩, String.toList_injective ?_⟩
    · simpa using digits
    · simpa using file_ne
    · simpa using free
    · rw [toList_diskIn (by simpa using folder_ne), e]
      simp

/-- A handle that is read has a disk made of its folder and its file. -/
theorem Canonical.places (h : v.Canonical) : Places v.folder v.filename ∧ v.disk = diskIn v.folder v.filename := by
  obtain ⟨folder, file, places, hd⟩ := exists_places h.disk
  rw [places.folder_eq hd, places.filename_eq hd]
  exact ⟨places, hd⟩

end VolumeHandle

end ClusterVolumes
