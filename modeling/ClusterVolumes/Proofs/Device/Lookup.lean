import ClusterVolumes.Device.Discovery
import ClusterVolumes.Proofs.FileTree.Listed
import ClusterVolumes.Proofs.FileTree.Rising
import ClusterVolumes.Proofs.Site.Answers
import ClusterVolumes.Proofs.Volume.DevicePath
import Mathlib.Tactic.Common

/-!
# Devices by their number

`Device.ShowsDisk` says of a tree of files that it shows a disk of a number in a folder: what stands in the files of the
device, without the function that looks it up. If the folder of SCSI devices shows exactly one disk of a number, with or
without a mark before the number, then that disk is found (`Device.findByNumber_of_unique`), and at once
(`Device.run_resolve`).
-/

namespace ClusterVolumes

open Service

namespace Device

/-! ## The folder of SCSI devices -/

/-- The path of the folder in which the system shows its SCSI devices. -/
def devicesPath (sysfs : String) : String :=
  FileTree.join sysfs "bus/scsi/devices"

theorem scsiPattern_eq (sysfs : String) : scsiPattern sysfs = devicesPath sysfs ++ "/*" := by
  have relative : ("bus/scsi/devices".startsWith "/" || "bus/scsi/devices/*".startsWith "/") = false := by
    decide +kernel
  obtain ⟨h, h'⟩ := Bool.or_eq_false_iff.mp relative
  unfold scsiPattern devicesPath FileTree.join
  simp only [h, h', Bool.false_or]
  refine String.toList_injective ?_
  split
  · rfl
  · split <;> simp

/-- The path of the folder has no wildcards of its own. -/
theorem plain_devicesPath {sysfs : String} (h : Pattern.Plain sysfs.toList) :
    Pattern.Plain (devicesPath sysfs).toList := by
  have own : Pattern.Plain "/bus/scsi/devices".toList := by decide +kernel
  intro c hc
  have origin : c ∈ sysfs.toList ∨ c ∈ "/bus/scsi/devices".toList := by
    unfold devicesPath FileTree.join at hc
    split at hc
    · exact Or.inr (List.mem_cons_of_mem '/' hc)
    · split at hc
      · rw [String.toList_append] at hc
        exact (List.mem_append.mp hc).imp_right (List.mem_cons_of_mem '/')
      · rw [String.append_assoc, String.toList_append] at hc
        exact List.mem_append.mp hc
  exact origin.elim (h c) (own c)

/-! ## Block devices -/

/-- Of the entries whose names are texts it is the one with the least name, byte by byte. -/
def IsFirstName (entries : List (FileName × FileTree)) (name : String) : Prop :=
  (∃ t, (.text name, t) ∈ entries) ∧ ∀ other t, (.text other, t) ∈ entries → Text.bytes name ≤ Text.bytes other

/-- Entries have one first name at most. -/
theorem IsFirstName.unique {entries : List (FileName × FileTree)} {name name' : String}
    (h : IsFirstName entries name) (h' : IsFirstName entries name') : name = name' := by
  obtain ⟨⟨t, mem⟩, least⟩ := h
  obtain ⟨⟨t', mem'⟩, least'⟩ := h'
  exact String.le_antisymm (Text.bytes_le_iff.mp (least name' t' mem')) (Text.bytes_le_iff.mp (least' name t mem))

/-- The first block device of a device is the first name in its folder of block devices. -/
theorem firstBlock?_eq_some_iff {root : FileTree} {place : List FileName} {block : String} :
    firstBlock? root place = some block ↔
      ∃ blocks, root.at? (place ++ [.text "block"]) = some (.folder blocks) ∧ IsFirstName blocks block := by
  unfold firstBlock? IsFirstName
  rw [FileName.head?_rising]
  cases root.at? (place ++ [.text "block"]) with
  | none => simp
  | some t => cases t <;> simp [FileTree.mem_names, FileTree.entries]

/-- There is one if a name in the folder is a text. -/
theorem isSome_firstBlock? {root : FileTree} {place : List FileName} {blocks : List (FileName × FileTree)} {name : String}
    {t : FileTree} (held : root.at? (place ++ [.text "block"]) = some (.folder blocks))
    (mem : (.text name, t) ∈ blocks) : (firstBlock? root place).isSome = true := by
  have named : name ∈ (FileTree.folder blocks).names := FileTree.mem_names.mpr ⟨t, mem⟩
  unfold firstBlock?
  rw [held, List.isSome_head?]
  exact List.ne_nil_of_mem (FileName.mem_rising.mpr named)

/-! ## Disks by their number -/

/-- A folder of a tree shows a disk of a number: a device whose name is an address, whose vendor is that of the virtual
disks, whose own number is one of some beginnings and then the number in any case of letters, and which has block
devices, the first of them `block`. -/
structure ShowsDisk (root : FileTree) (folder : List FileName) (beginnings : List String) (number name block : String) :
    Prop where
  address : isAddress name = true
  vendor : attribute? root (folder ++ [.text name, .text "vendor"]) = some Device.vendor
  number : ∃ beginning ∈ beginnings, ∃ own,
    attribute? root (folder ++ [.text name, .text "wwid"]) = some (beginning ++ own) ∧ sameNumber own number = true
  block : ∃ blocks, root.at? (folder ++ [.text name, .text "block"]) = some (.folder blocks) ∧ IsFirstName blocks block

section

variable {root : FileTree} {folder : List FileName} {number name block : String}

/-- A disk that is shown is an entry of the folder. -/
theorem ShowsDisk.name_mem {beginnings : List String} {entries : List (FileName × FileTree)}
    (h : ShowsDisk root folder beginnings number name block) (hfolder : root.at? folder = some (.folder entries)) :
    name ∈ (FileTree.folder entries).names := by
  obtain ⟨_, hblock, -⟩ := h.block
  obtain ⟨held, hheld, child, hchild⟩ := FileTree.entry_of_at? hblock
  obtain rfl : held = entries := FileTree.folder.inj (Option.some.inj (hheld.symm.trans hfolder))
  exact FileTree.mem_names.mpr ⟨child, hchild⟩

theorem toLower_hexDigit_ne {c : Char} (h : c ∈ VolumeHandle.hexDigits) : c.toLower ≠ 'n' := by
  have all : VolumeHandle.hexDigits.all (fun c => c.toLower ≠ 'n') = true := by decide +kernel
  exact of_decide_eq_true (List.all_eq_true.mp all c h)

/-- What is the same number as a number in hexadecimal digits does not begin with a mark. -/
theorem dropStart?_of_sameNumber {own : String} (hex : ∀ c ∈ number.toList, c ∈ VolumeHandle.hexDigits)
    (h : sameNumber own number = true) : Text.dropStart? numberStart.toList own.toList = none := by
  cases e : Text.dropStart? numberStart.toList own.toList with
  | none => rfl
  | some rest =>
    exfalso
    have start : own.toList = 'n' :: 'a' :: 'a' :: '.' :: rest := Text.dropStart?_eq_some_iff.mp e
    have same : own.toList.map Char.toLower = number.toList.map Char.toLower := of_decide_eq_true h
    have mem : 'n' ∈ number.toList.map Char.toLower := by
      rw [← same, start]
      exact List.mem_cons_self
    obtain ⟨c, hc, lower⟩ := List.mem_map.mp mem
    exact toLower_hexDigit_ne (hex c hc) lower

/-- A device has a number in hexadecimal digits if its own number is that, with or without a mark. -/
theorem hasNumber_iff (hex : ∀ c ∈ number.toList, c ∈ VolumeHandle.hexDigits) :
    hasNumber root (folder ++ [.text name]) number = true ↔
      isAddress name = true ∧ attribute? root (folder ++ [.text name, .text "vendor"]) = some vendor ∧
        ∃ beginning ∈ ["", numberStart], ∃ own,
          attribute? root (folder ++ [.text name, .text "wwid"]) = some (beginning ++ own) ∧
            sameNumber own number = true := by
  unfold hasNumber
  rw [List.getLast?_concat, List.append_assoc, List.append_assoc]
  simp only [Option.bind_some, FileName.text?, Option.any_some, Bool.and_eq_true, decide_eq_true_eq, List.cons_append,
    List.nil_append, and_assoc]
  refine and_congr_right fun _ => and_congr_right fun _ => ?_
  cases found : attribute? root (folder ++ [.text name, .text "wwid"]) with
  | none => simp
  | some text =>
    constructor
    · intro h
      cases e : Text.dropStart? numberStart.toList text.toList with
      | none =>
        simp [e] at h
        exact ⟨"", by simp, text, by simp, h⟩
      | some rest =>
        simp [e] at h
        refine ⟨numberStart, by simp, String.ofList rest, ?_, h⟩
        congr 1
        exact String.toList_injective (by simp [Text.dropStart?_eq_some_iff.mp e])
    · rintro ⟨beginning, hb, own, e, same⟩
      obtain rfl := Option.some.inj e
      rcases List.mem_cons.mp hb with rfl | hb
      · simp [dropStart?_of_sameNumber hex same, same]
      · obtain rfl := List.mem_singleton.mp hb
        have behind : Text.dropStart? numberStart.toList (numberStart.toList ++ own.toList) = some own.toList :=
          Text.dropStart?_eq_some_iff.mpr rfl
        simp [behind, same]

/-- The first block device behind a device is that of the disk that is shown there. -/
theorem blockOf?_eq_some_iff (hex : ∀ c ∈ number.toList, c ∈ VolumeHandle.hexDigits) {device : String} :
    blockOf? root number (folder ++ [.text name]) = some device ↔
      ∃ block, ShowsDisk root folder ["", numberStart] number name block ∧ device = "/dev/" ++ block := by
  have first (block : String) : firstBlock? root (folder ++ [.text name]) = some block ↔
      ∃ blocks, root.at? (folder ++ [.text name, .text "block"]) = some (.folder blocks) ∧ IsFirstName blocks block := by
    rw [firstBlock?_eq_some_iff, List.append_assoc, List.singleton_append]
  unfold blockOf?
  constructor
  · intro h
    split at h
    · rename_i own
      obtain ⟨address, vendor, number⟩ := (hasNumber_iff hex).mp own
      obtain ⟨block, hblock, rfl⟩ := Option.map_eq_some_iff.mp h
      exact ⟨block, ⟨address, vendor, number, (first block).mp hblock⟩, rfl⟩
    · cases h
  · rintro ⟨block, shown, rfl⟩
    rw [if_pos ((hasNumber_iff hex).mpr ⟨shown.address, shown.vendor, shown.number⟩), (first block).mpr shown.block]
    rfl

/-- What is found for one item only is found first. -/
theorem findSome?_of_unique {α β : Type} {f : α → Option β} {l : List α} {a : α} {b : β} (ha : a ∈ l)
    (h : f a = some b) (only : ∀ x ∈ l, ∀ y, f x = some y → y = b) : l.findSome? f = some b := by
  cases e : l.findSome? f with
  | none =>
    have := List.findSome?_eq_none_iff.mp e a ha
    rw [h] at this
    cases this
  | some y =>
    obtain ⟨x, hx, hy⟩ := List.exists_of_findSome?_eq_some e
    exact congrArg some (only x hx y hy)

/-- **The device of a number.** If the folder of SCSI devices is at a path without wildcards and shows exactly one disk
of a number, with or without a mark before it, the first block device of that disk is found. -/
theorem findByNumber_of_unique {sysfs : String} (plain : Pattern.Plain sysfs.toList)
    (hex : ∀ c ∈ number.toList, c ∈ VolumeHandle.hexDigits) (found : root.place (devicesPath sysfs) = .ok folder)
    (shown : ShowsDisk root folder ["", numberStart] number name block)
    (only : ∀ name' block', ShowsDisk root folder ["", numberStart] number name' block' → name' = name) :
    findByNumber root sysfs number = .ok (some ("/dev/" ++ block)) := by
  obtain ⟨_, hblock, -⟩ := shown.block
  obtain ⟨entries, hfolder, -⟩ := FileTree.entry_of_at? hblock
  have entry : name ∈ ((root.at? folder).map FileTree.names).getD [] := by
    rw [hfolder]
    exact shown.name_mem hfolder
  unfold findByNumber
  rw [scsiPattern_eq, Pattern.places_plain (plain_devicesPath plain) found hfolder]
  have own := (blockOf?_eq_some_iff hex).mpr ⟨block, shown, rfl⟩
  refine congrArg Except.ok (findSome?_of_unique (List.mem_map_of_mem (FileName.mem_rising.mpr entry)) own ?_)
  intro place hplace device hdevice
  obtain ⟨name', -, rfl⟩ := List.mem_map.mp hplace
  obtain ⟨block', shown', rfl⟩ := (blockOf?_eq_some_iff hex).mp hdevice
  obtain rfl := only name' block' shown'
  obtain ⟨blocks, held, first⟩ := shown.block
  obtain ⟨blocks', held', first'⟩ := shown'.block
  obtain rfl : blocks = blocks' := FileTree.folder.inj (Option.some.inj (held.symm.trans held'))
  rw [first.unique first']

/-! ## Finding -/

/-- A path that is made from a number is looked up by the number. -/
theorem ensures_resolve {s : Site} {finder : Finder} {good : String → Site → Prop} {bad : Failure → Site → Prop} :
    Ensures Site.answering (fun _ _ => True) (resolve finder (VolumeHandle.devicePathStart ++ number)) good bad s ↔
      onOutcome (fun device t => Ensures Site.answering (fun _ _ => True)
        (match device with
          | some device => pure device
          | none => awaitPath finder (VolumeHandle.devicePathStart ++ number)) good bad t) bad
        (findByNumber s.files finder.sysfs number) s := by
  have start : Text.dropStart? VolumeHandle.devicePathStart.toList
      (VolumeHandle.devicePathStart ++ number).toList = some number.toList :=
    Text.dropStart?_eq_some_iff.mpr (by rw [String.toList_append])
  unfold resolve
  rw [start]
  refine ensures_bind.trans (ensures_files.trans ⟨fun h => ?_, fun h => ⟨trivial, fun root t e => ?_⟩⟩)
  · have looked := ensures_bind.mp (h.2 s.files s rfl)
    rwa [String.ofList_toList] at looked
  · cases e
    refine ensures_bind.mpr ?_
    rwa [String.ofList_toList]

/-- The device of a number is found at once. -/
theorem run_resolve {s : Site} {finder : Finder} {device : String}
    (h : findByNumber s.files finder.sysfs number = .ok (some device)) :
    Site.run (resolve finder (VolumeHandle.devicePathStart ++ number)) s = (.ok device, s) := by
  have found : Ensures Site.answering (fun _ _ => True) (resolve finder (VolumeHandle.devicePathStart ++ number))
      (fun d t => d = device ∧ t = s) (fun _ _ => False) s := by
    rw [ensures_resolve, h]
    exact ensures_pure.mpr ⟨rfl, rfl⟩
  have ended := Site.run_ended found
  cases e : (Site.run (resolve finder (VolumeHandle.devicePathStart ++ number)) s).1 with
  | error f =>
    rw [e] at ended
    exact ended.elim
  | ok d =>
    rw [e] at ended
    obtain ⟨rfl, same⟩ := ended
    exact Prod.ext e same

/-- A path at which something stands is found at the first look. -/
theorem runsTo_awaitPath {σ : Type} {E : Environment collaborators σ} {finder : Finder} {path : String} {s begun t : σ}
    (begins : E s (.deadline finder.timeout) true begun) (seen : E begun .files root t)
    (there : root.existsAt path = true) : (awaitPath finder path).RunsTo E s (.ok path) t := by
  have look : (isThere path).RunsTo E begun (.ok (some ())) t := by
    refine runsTo_bind.mpr (.inl ⟨root, t, runsTo_files.mpr ⟨root, rfl, seen⟩, ?_⟩)
    exact runsTo_pure.mpr ⟨by rw [if_pos there], rfl⟩
  obtain ⟨n, attempts⟩ : ∃ n, attempts finder.timeout finder.pause = n + 1 := by
    unfold attempts
    split
    · exact ⟨_, rfl⟩
    · exact ⟨_, rfl⟩
  unfold awaitPath pollUntil
  rw [attempts]
  refine runsTo_bind.mpr (.inl ⟨(), t, ?_, runsTo_pure.mpr ⟨rfl, rfl⟩⟩)
  refine runsTo_bind.mpr (.inl ⟨(), begun, runsTo_deadline.mpr (.inl ⟨rfl, begins⟩), ?_⟩)
  refine runsTo_bind.mpr (.inl ⟨some (), t, ?_, runsTo_pure.mpr ⟨rfl, rfl⟩⟩)
  exact runsTo_bind.mpr (.inl ⟨some (), t, look, runsTo_pure.mpr ⟨rfl, rfl⟩⟩)

/-- A path at which nothing stands is waited for in vain. -/
theorem awaitPath_fails {s : Site} {finder : Finder} {path : String} (inTime : s.clock + finder.timeout < Site.clockEnd)
    (h : s.files.existsAt path = false) : Ensures Site.answering (fun _ _ => True) (awaitPath finder path)
      (fun _ _ => False) (fun f _ => f = .deviceNotFound path) s := by
  unfold awaitPath pollUntil
  refine ensures_bind.mpr (ensures_bind.mpr (Ensures.deadline trivial (fun t begun => ?_) fun t unshown => ?_))
  · obtain rfl : s = t := congrArg Prod.snd begun
    refine ensures_bind.mpr (Ensures.poll (K := fun t => t.files = s.files) (fun t same => ?_) (fun t _ => ?_) _ s rfl)
    · refine ensures_bind.mpr (ensures_files.mpr ⟨trivial, fun root u e => ?_⟩)
      cases e
      rw [same, h]
      refine ensures_pure.mpr ⟨trivial, fun x v e => ?_⟩
      cases e
      exact same
    · exact rfl
  · have shown : decide (s.clock + finder.timeout < Site.clockEnd) = false := congrArg Prod.fst unshown
    rw [decide_eq_true inTime] at shown
    cases shown

/-- A number that no device has is not found if nothing stands at its path. -/
theorem run_resolve_missing {s : Site} {finder : Finder} (inTime : s.clock + finder.timeout < Site.clockEnd)
    (h : findByNumber s.files finder.sysfs number = .ok none)
    (absent : s.files.existsAt (VolumeHandle.devicePathStart ++ number) = false) :
    (Site.run (resolve finder (VolumeHandle.devicePathStart ++ number)) s).1 =
      .error (.deviceNotFound (VolumeHandle.devicePathStart ++ number)) := by
  have missing : Ensures Site.answering (fun _ _ => True) (resolve finder (VolumeHandle.devicePathStart ++ number))
      (fun _ _ => False) (fun f _ => f = .deviceNotFound (VolumeHandle.devicePathStart ++ number)) s := by
    rw [ensures_resolve, h]
    exact awaitPath_fails inTime absent
  exact Site.run_fails missing

end

end Device

end ClusterVolumes
