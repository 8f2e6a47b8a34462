import ClusterVolumes.Proofs.Volume.DiskLayout
import ClusterVolumes.Proofs.Volume.MachineMarks
import Mathlib.Data.List.TakeWhile

/-!
# Names of new disks

A disk of a format lies in the folder of the machine whose number its name tells, and ends in the format
(`formattedDisk_eq`). As a machine number is made of digits (`DiskName.isDigit_of_mem_vmNumber`), a handle with such a
disk is read from its text, whatever the disk and the format are called (`canonical_withFormat`).

The driver names its disks after volumes. From the name of such a disk come back the number of the driver's own machine,
the format, and the name of the volume up to its first dot, even if the volume's name looks like that of a disk itself; and
the disk tells its volume and format apart from all others (`naming_faithful`).
-/

namespace ClusterVolumes

namespace Text

/-- A text without the separator is taken whole. -/
theorem takeWhile_of_notMem {sep : Char} {cs : List Char} (free : sep ∉ cs) : cs.takeWhile (· ≠ sep) = cs := by
  refine List.takeWhile_eq_self_iff.mpr fun c mem => ?_
  simpa using ne_of_mem_of_not_mem mem free

/-- What is taken ends before the first separator. -/
theorem takeWhile_of_cut {sep : Char} {before behind : List Char} (free : sep ∉ before) :
    (before ++ sep :: behind).takeWhile (· ≠ sep) = before := by
  rw [List.takeWhile_append, takeWhile_of_notMem free]
  simp

end Text

namespace DiskName

/-! ## Names of volumes -/

/-- A name up to its first dot, which is all of it if it has none. -/
def UpToDot (short name : String) : Prop :=
  '.' ∉ short.toList ∧ (name = short ∨ ∃ rest, name = short ++ "." ++ rest)

theorem upToDot_takeWhile (name : String) : UpToDot (String.ofList (name.toList.takeWhile (· ≠ '.'))) name := by
  cases hcut : Text.cutFirst '.' name.toList with
  | none =>
    have free := Text.cutFirst_eq_none_iff.mp hcut
    rw [Text.takeWhile_of_notMem free, String.ofList_toList]
    exact ⟨free, .inl rfl⟩
  | some cut =>
    obtain ⟨before, behind⟩ := cut
    obtain ⟨e, free⟩ := Text.cutFirst_eq_some_iff.mp hcut
    rw [e, Text.takeWhile_of_cut free]
    refine ⟨by simpa using free, .inr ⟨String.ofList behind, String.toList_injective ?_⟩⟩
    simp [e]

/-- What stands behind the second dash of a disk's name is taken up to its first dot. -/
theorem claimName_eq {disk : String} {first second name : List Char}
    (hd : disk.toList = first ++ '-' :: (second ++ '-' :: name)) (hf : '-' ∉ first) (hs : '-' ∉ second) :
    claimName disk = String.ofList (name.takeWhile (· ≠ '.')) := by
  rw [claimName, hd, Text.cutFirst_eq_some_iff.mpr ⟨rfl, hf⟩]
  simp only [Option.bind_eq_bind, Option.bind_some, Text.cutFirst_eq_some_iff.mpr ⟨rfl, hs⟩]
  rfl

end DiskName

namespace VolumeHandle

variable {region zone storage name disk format : String}

/-- A format behind a name does not count for what stands before the first dot. -/
theorem takeWhile_ending (name format : String) :
    (name ++ ending format).toList.takeWhile (· ≠ '.') = name.toList.takeWhile (· ≠ '.') := by
  by_cases none : format = ""
  · rw [ending, if_pos none, String.append_empty]
  rw [String.toList_append, toList_ending none]
  cases hcut : Text.cutFirst '.' name.toList with
  | none =>
    have free := Text.cutFirst_eq_none_iff.mp hcut
    rw [Text.takeWhile_of_cut free, Text.takeWhile_of_notMem free]
  | some cut =>
    obtain ⟨e, free⟩ := Text.cutFirst_eq_some_iff.mp hcut
    rw [e, List.append_assoc, List.cons_append, Text.takeWhile_of_cut free, Text.takeWhile_of_cut free]

/-! ## Disks of a format -/

/-- A disk of a format lies in the folder of its machine and ends in the format. -/
theorem formattedDisk_eq (disk format : String) : formattedDisk disk format =
    diskIn (if format = "" then "" else DiskName.vmNumber disk) (disk ++ ending format) := by
  unfold formattedDisk diskIn ending
  by_cases none : format = ""
  · simp [none]
  · by_cases unnumbered : DiskName.vmNumber disk = ""
    · simp [none, unnumbered, String.append_assoc]
    · simp [none, unnumbered, String.append_assoc]

theorem places_formattedDisk (named : disk ≠ "") (free : '/' ∉ disk.toList) (plain : '/' ∉ format.toList) :
    Places (if format = "" then "" else DiskName.vmNumber disk) (disk ++ ending format) where
  digits := by
    split
    · exact nofun
    · exact DiskName.isDigit_of_mem_vmNumber disk
  file_ne := fun none => named (String.append_eq_empty_iff.mp none).1
  file_free := by
    rw [String.toList_append, List.mem_append, not_or]
    exact ⟨free, slash_notMem_ending plain⟩

/-- A region, a zone and a storage as a handle may name them: only the zone may be empty. -/
structure IsPlace (region zone storage : String) : Prop where
  region : region ≠ "" ∧ '/' ∉ region.toList
  zone : '/' ∉ zone.toList
  storage : storage ≠ "" ∧ '/' ∉ storage.toList

/-- The handle of a disk of a format is read from its text. -/
theorem canonical_withFormat (place : IsPlace region zone storage) (named : disk ≠ "") (free : '/' ∉ disk.toList)
    (plain : '/' ∉ format.toList) : Canonical (withFormat region zone storage disk format) where
  region := place.region
  zone := place.zone
  storage := place.storage
  disk := by
    rw [withFormat, formattedDisk_eq]
    exact (places_formattedDisk named free plain).isDiskName

/-! ## Disks of the driver -/

/-- A handle is read from its text, and its disk tells the name of a volume and a format. -/
structure NamedFor (v : VolumeHandle) (name format : String) : Prop where
  read : parse v.text = .ok v
  folder : v.folder = if format = "" then "" else "9999"
  filename : v.filename = "vm-9999-" ++ name ++ ending format
  format : format ≠ "" → v.format = format
  vmNumber : v.vmNumber = "9999"
  claimName : DiskName.UpToDot v.claimName name

/-- Whatever a volume is called, the first machine mark in the name of its disk is that of the driver's own machine. -/
theorem vmNumber_formattedDisk (name format : String) :
    DiskName.vmNumber (formattedDisk (DiskName.provisioned name) format) = "9999" := by
  by_cases none : format.isEmpty = true
  · rw [formattedDisk, if_pos none, vmNumber_provisioned]
  · rw [DiskName.vmNumber, toList_formattedDisk name (by simpa using none), toList_provisioned]
    rfl

/-- The name of a volume stands behind the second dash, in a folder or not. -/
theorem claimName_formattedDisk (name format : String) :
    DiskName.claimName (formattedDisk (DiskName.provisioned name) format) =
      String.ofList (name.toList.takeWhile (· ≠ '.')) := by
  by_cases none : format = ""
  · have chars : (formattedDisk (DiskName.provisioned name) format).toList =
        ['v', 'm'] ++ '-' :: (['9', '9', '9', '9'] ++ '-' :: name.toList) := by
      rw [formattedDisk, if_pos (by simp [none]), toList_provisioned]
      rfl
    exact DiskName.claimName_eq chars (by decide) (by decide)
  · have chars : (formattedDisk (DiskName.provisioned name) format).toList =
        "9999/vm".toList ++ '-' :: (['9', '9', '9', '9'] ++ '-' :: (name ++ ending format).toList) := by
      rw [toList_formattedDisk name (by simpa using none), toList_provisioned, String.toList_append, toList_ending none]
      simp
    rw [DiskName.claimName_eq chars (by decide) (by decide), takeWhile_ending]

theorem namedFor_withFormat (place : IsPlace region zone storage) (free : '/' ∉ name.toList) (known : IsFormat format) :
    NamedFor (withFormat region zone storage (DiskName.provisioned name) format) name format := by
  have plain := slash_notMem_of_isFormat known
  have named : DiskName.provisioned name ≠ "" := by
    intro none
    have chars := toList_provisioned name
    rw [none] at chars
    cases chars
  have file_free : '/' ∉ (DiskName.provisioned name).toList := by
    rw [toList_provisioned]
    simpa using free
  have places := places_formattedDisk named file_free plain
  have disk := formattedDisk_eq (DiskName.provisioned name) format
  rw [vmNumber_provisioned] at places disk
  have filename := places.filename_eq (v := withFormat region zone storage (DiskName.provisioned name) format) disk
  constructor
  · exact parse_eq_ok_iff_canonical.mpr ⟨canonical_withFormat place named file_free plain, rfl⟩
  · exact places.folder_eq disk
  · exact filename
  · intro some
    rw [format_eq, filename, formatOf_eq_iff (known.resolve_left some), String.toList_append]
    exact List.suffix_append _ _
  · exact vmNumber_formattedDisk name format
  · rw [claimName, withFormat, claimName_formattedDisk]
    exact DiskName.upToDot_takeWhile name

/-- No disk is that of two volumes or of two formats. -/
theorem formattedDisk_injOn :
    Set.InjOn (fun p : String × String => formattedDisk (DiskName.provisioned p.1) p.2) {p | IsFormat p.2} := by
  rintro ⟨name, format⟩ known ⟨name', format'⟩ known' same
  have plainly : ∀ name, (formattedDisk (DiskName.provisioned name) "").toList =
      ['v', 'm', '-', '9', '9', '9', '9', '-'] ++ name.toList := toList_provisioned
  have chars := congrArg String.toList same
  dsimp only at chars
  rcases known with rfl | known <;> rcases known' with rfl | known'
  · rw [plainly, plainly] at chars
    rw [String.toList_injective (List.append_cancel_left chars)]
  · rw [plainly, toList_formattedDisk name' (by simpa using ne_empty_of_mem_formats known')] at chars
    cases chars
  · rw [plainly, toList_formattedDisk name (by simpa using ne_empty_of_mem_formats known)] at chars
    cases chars
  · rw [toList_formattedDisk name (by simpa using ne_empty_of_mem_formats known),
      toList_formattedDisk name' (by simpa using ne_empty_of_mem_formats known')] at chars
    obtain ⟨stems, rfl⟩ := dotted_inj known known' (List.cons.inj (List.append_cancel_left chars)).2
    rw [toList_provisioned, toList_provisioned] at stems
    rw [String.toList_injective (List.append_cancel_left stems)]

/-- **Names of disks.** The handle of a new disk for a volume, of whatever name, is read from its text, and its disk lies
in the folder of the driver's own machine exactly if it has a format, and tells that format, the machine and the name of
the volume up to its first dot. No two volumes and formats give one disk. The handle of any disk of any format is read
from its text. -/
theorem naming_faithful :
    (∀ region zone storage name format, IsPlace region zone storage → '/' ∉ name.toList → IsFormat format →
      NamedFor (withFormat region zone storage (DiskName.provisioned name) format) name format) ∧
      Set.InjOn (fun p : String × String => formattedDisk (DiskName.provisioned p.1) p.2) {p | IsFormat p.2} ∧
      ∀ region zone storage disk format, IsPlace region zone storage → disk ≠ "" → '/' ∉ disk.toList →
        '/' ∉ format.toList →
          parse (withFormat region zone storage disk format).text = .ok (withFormat region zone storage disk format) := by
  refine ⟨fun region zone storage name format place free known => namedFor_withFormat place free known,
    formattedDisk_injOn, fun region zone storage disk format place named free plain => ?_⟩
  exact parse_eq_ok_iff_canonical.mpr ⟨canonical_withFormat place named free plain, rfl⟩

/-- A volume whose name looks like the file of another disk, on a storage that all nodes share, and a disk of a format that
no file tells. -/
theorem naming_faithful_nested :
    NamedFor ⟨"r1", "", "nfs", "9999/vm-9999-a-vm-123-b.raw.qcow2"⟩ "a-vm-123-b.raw" "qcow2" ∧
      parse "r1//nfs/250/base-vm-250.img" = .ok ⟨"r1", "", "nfs", "250/base-vm-250.img"⟩ := by
  have place : IsPlace "r1" "" "nfs" := ⟨by decide, by decide, by decide⟩
  obtain ⟨named, -, read⟩ := naming_faithful
  refine ⟨named "r1" "" "nfs" "a-vm-123-b.raw" "qcow2" place (by decide) (.inr (by decide)), ?_⟩
  exact read "r1" "" "nfs" "base-vm-250" "img" place (by decide) (by decide) (by decide)

end VolumeHandle

end ClusterVolumes
