import ClusterVolumes.Proofs.Device.Lookup
import ClusterVolumes.Proofs.Polling

/-!
# Discovery of devices

`Device.Qualifies` says of an entry of the folder of SCSI devices that it is a disk of a number, and `Device.Shows`
which device a folder shows for a number: the first block device of the first entry that qualifies. What is looked up by
a number is exactly that (`findByNumber_shows`).

A path that is made from a number leads to the device that is shown for it. Any other path, and one for which no device
is shown, is waited for (`Device.Awaits`). `Device.Resolves` puts both together, and the main result is
`discovery_exact`.
-/

namespace ClusterVolumes

open Service

namespace Device

/-! ## Disks of a number -/

/-- Of the entries of a kind it is the one with the least name, byte by byte. -/
def IsFirst (kind : FileName × FileTree → Prop) (l : List (FileName × FileTree)) (e : FileName × FileTree) : Prop :=
  e ∈ l ∧ kind e ∧ ∀ other ∈ l, kind other → e.1.written ≤ other.1.written

/-- A file of a device holds a text, blanks at its ends aside. -/
def HasAttribute (device : FileTree) (name value : String) : Prop :=
  ∃ text, device.at? [.text name] = some (.file text) ∧ Text.trim text = value

/-- The number that a device shows is its own one, perhaps with one mark before it. -/
def Bare (shown own : String) : Prop :=
  shown = "naa." ++ own ∨ ¬"naa.".toList <+: shown.toList ∧ own = shown

/-- A text is made of ASCII digits and colons, and not empty. -/
def AddressOnly (name : String) : Prop :=
  name ≠ "" ∧ ∀ c ∈ name.toList, ('0' ≤ c ∧ c ≤ '9') ∨ c = ':'

/-- An entry of the folder of SCSI devices is a disk of a number.
- `address`: its name is a text, made of ASCII digits and colons;
- `vendor`: it is a virtual disk;
- `number`: its own number is the given one, up to the case of ASCII letters;
- `block`: it has a block device whose name is a text. -/
structure Qualifies (number : String) (e : FileName × FileTree) : Prop where
  address : ∃ name, e.1 = .text name ∧ AddressOnly name
  vendor : HasAttribute e.2 "vendor" "QEMU"
  number : ∃ shown own, HasAttribute e.2 "wwid" shown ∧ Bare shown own ∧
    own.toList.map Char.toLower = number.toList.map Char.toLower
  block : ∃ blocks name t, e.2.at? [.text "block"] = some (.folder blocks) ∧ (.text name, t) ∈ blocks

/-- The device that is shown for a number among entries: the first block device of the first disk of the number. -/
def Shows (entries : List (FileName × FileTree)) (number device : String) : Prop :=
  ∃ e, IsFirst (Qualifies number) entries e ∧ ∃ blocks block, e.2.at? [.text "block"] = some (.folder blocks) ∧
    IsFirstName blocks block ∧ device = "/dev/" ++ block

section

variable {root device : FileTree} {place : List FileName} {name number : String}

theorem isAddress_iff : isAddress name = true ↔ AddressOnly name := by
  simp [isAddress, DiskName.isDigit, AddressOnly]

theorem attribute?_iff (there : root.at? place = some device) {value : String} :
    attribute? root (place ++ [.text name]) = some value ↔ HasAttribute device name value := by
  unfold attribute? HasAttribute
  rw [FileTree.at?_append, there, Option.bind_some]
  cases device.at? [.text name] with
  | none => simp
  | some t => cases t <;> simp

/-- What is compared is the number without one mark before it. -/
theorem bare_iff {shown own : String} :
    ((Text.dropStart? numberStart.toList shown.toList).map String.ofList).getD shown = own ↔ Bare shown own := by
  unfold Bare
  cases cut : Text.dropStart? numberStart.toList shown.toList with
  | none =>
    have unmarked : ¬"naa.".toList <+: shown.toList :=
      Text.isNone_dropStart?_iff.mp (Option.isNone_iff_eq_none.mpr cut)
    have longer : shown ≠ "naa." ++ own := by
      rintro rfl
      exact unmarked (by simp)
    simp only [Option.map_none, Option.getD_none, longer, unmarked, not_false_eq_true, true_and, false_or]
    exact eq_comm
  | some rest =>
    have start : shown.toList = "naa.".toList ++ rest := Text.dropStart?_eq_some_iff.mp cut
    obtain rfl : shown = "naa." ++ String.ofList rest := String.toList_injective (by simp [start])
    simp

theorem hasNumber_iff_qualifies (there : root.at? (place ++ [.text name]) = some device) :
    hasNumber root (place ++ [.text name]) number = true ↔
      AddressOnly name ∧ HasAttribute device "vendor" "QEMU" ∧
        ∃ shown own, HasAttribute device "wwid" shown ∧ Bare shown own ∧
          own.toList.map Char.toLower = number.toList.map Char.toLower := by
  unfold hasNumber
  simp only [Bool.and_eq_true, decide_eq_true_eq, and_assoc, ← isAddress_iff, List.getLast?_concat, Option.bind_some,
    FileName.text?, Option.any_some]
  refine and_congr_right fun _ => and_congr (attribute?_iff there) ?_
  simp only [← attribute?_iff there, ← bare_iff]
  cases attribute? root (place ++ [.text name] ++ [.text "wwid"]) with
  | none => simp
  | some shown => simp [sameNumber]

/-- The first block device of an entry is the first name in its folder of block devices. -/
theorem firstBlock?_iff (there : root.at? place = some device) {block : String} : firstBlock? root place = some block ↔
    ∃ blocks, device.at? [.text "block"] = some (.folder blocks) ∧ IsFirstName blocks block := by
  rw [firstBlock?_eq_some_iff, FileTree.at?_append, there, Option.bind_some]

/-- The block device that is found behind an entry is that of a disk of the number, and its first one. -/
theorem blockOf?_iff_qualifies (there : root.at? (place ++ [.text name]) = some device) {found : String} :
    blockOf? root number (place ++ [.text name]) = some found ↔
      Qualifies number (.text name, device) ∧ ∃ blocks block, device.at? [.text "block"] = some (.folder blocks) ∧
        IsFirstName blocks block ∧ found = "/dev/" ++ block := by
  unfold blockOf?
  constructor
  · intro h
    split at h
    · rename_i own
      obtain ⟨block, here, rfl⟩ := Option.map_eq_some_iff.mp h
      obtain ⟨blocks, held, first⟩ := (firstBlock?_iff there).mp here
      obtain ⟨address, vendor, numbered⟩ := (hasNumber_iff_qualifies there).mp own
      obtain ⟨t, mem⟩ := first.1
      exact ⟨⟨⟨name, rfl, address⟩, vendor, numbered, blocks, block, t, held, mem⟩, blocks, block, held, first, rfl⟩
    · cases h
  · intro h
    obtain ⟨⟨⟨_, ⟨⟩, address⟩, vendor, numbered, -⟩, blocks, block, held, first, rfl⟩ := h
    rw [if_pos ((hasNumber_iff_qualifies there).mpr ⟨address, vendor, numbered⟩),
      (firstBlock?_iff there).mpr ⟨blocks, held, first⟩]
    rfl

/-- A disk of a number has a first block device. -/
theorem isSome_blockOf?_iff (there : root.at? (place ++ [.text name]) = some device) :
    (blockOf? root number (place ++ [.text name])).isSome = true ↔ Qualifies number (.text name, device) := by
  constructor
  · intro found
    obtain ⟨_, here⟩ := Option.isSome_iff_exists.mp found
    exact ((blockOf?_iff_qualifies there).mp here).1
  · intro qualifies
    obtain ⟨blocks, _, t, held, mem⟩ := qualifies.block
    have below : root.at? (place ++ [.text name] ++ [.text "block"]) = some (.folder blocks) := by
      rw [FileTree.at?_append, there, Option.bind_some, held]
    obtain ⟨block, first⟩ := Option.isSome_iff_exists.mp (isSome_firstBlock? below mem)
    obtain ⟨_, same, first⟩ := (firstBlock?_iff there).mp first
    exact Option.isSome_iff_exists.mpr
      ⟨_, (blockOf?_iff_qualifies there).mpr ⟨qualifies, _, block, same, first, rfl⟩⟩

theorem devicesPath_ne_nil (sysfs : String) : (devicesPath sysfs).toList ≠ [] := by
  unfold devicesPath FileTree.join
  split_ifs <;> simp

/-- **What is found by a number.** The device that the folder of SCSI devices shows for it, and none exactly if no entry
of the folder is a disk of the number. -/
theorem findByNumber_shows {sysfs : String} (wf : root.WellFormed) (plain : Pattern.Plain sysfs.toList)
    (number : String) : ∃ found, findByNumber root sysfs number = .ok found ∧
      (found = none ↔ ∀ e ∈ root.listed (devicesPath sysfs), ¬Qualifies number e) ∧
      ∀ device, found = some device ↔ Shows (root.listed (devicesPath sysfs)) number device := by
  obtain ⟨place, places, entries⟩ := Pattern.places_listed wf (plain_devicesPath plain) (devicesPath_ne_nil sysfs)
  have found (name : String) (child : FileTree) (mem : (.text name, child) ∈ root.listed (devicesPath sysfs)) :
      (blockOf? root number (place ++ [.text name])).isSome = true ↔ Qualifies number (.text name, child) :=
    isSome_blockOf?_iff (entries _ mem)
  have search : findByNumber root sysfs number =
      .ok ((FileName.rising (fun name => [.text name]) (FileTree.folder (root.listed (devicesPath sysfs))).names).findSome?
        fun name => blockOf? root number (place ++ [.text name])) := by
    rw [findByNumber, scsiPattern_eq, places]
    exact congrArg Except.ok List.findSome?_map
  refine ⟨_, search, ?_, fun device => ?_⟩
  · simp only [List.findSome?_eq_none_iff, FileName.mem_rising, FileTree.mem_names]
    constructor
    · rintro none ⟨held, child⟩ mem qualifies
      obtain ⟨name, rfl, -⟩ := qualifies.address
      have some := (found name child mem).mpr qualifies
      rw [none name ⟨child, mem⟩] at some
      cases some
    · rintro none name ⟨child, mem⟩
      exact Option.not_isSome_iff_eq_none.mp (mt (found name child mem).mp (none _ mem))
  · rw [FileName.findSome?_rising]
    constructor
    · rintro ⟨name, named, here, least⟩
      obtain ⟨child, mem⟩ := FileTree.mem_names.mp named
      obtain ⟨qualifies, shown⟩ := (blockOf?_iff_qualifies (entries _ mem)).mp here
      refine ⟨(.text name, child), ⟨mem, qualifies, ?_⟩, shown⟩
      rintro ⟨held, other⟩ mem' qualifies'
      obtain ⟨name', rfl, -⟩ := qualifies'.address
      exact least name' (FileTree.mem_names.mpr ⟨other, mem'⟩) ((found name' other mem').mpr qualifies')
    · rintro ⟨⟨held, child⟩, ⟨mem, qualifies, least⟩, shown⟩
      obtain ⟨name, rfl, -⟩ := qualifies.address
      refine ⟨name, FileTree.mem_names.mpr ⟨child, mem⟩, (blockOf?_iff_qualifies (entries _ mem)).mpr ⟨qualifies, shown⟩,
        fun name' named met => ?_⟩
      obtain ⟨other, mem'⟩ := FileTree.mem_names.mp named
      exact least _ mem' ((found name' other mem').mp met)

end

/-! ## Waiting for a path -/

/-- A look at the files of a node, with what was seen. -/
abbrev saw (root : FileTree) : Program.Exchange collaborators :=
  ⟨.files, root⟩

/-- A sequence that begins with a look at the files goes on with what was seen. -/
theorem runsTo_files_bind {β : Type} {next : FileTree → Service β} {outcome : Except Failure β} {past now : History} :
    (files >>= next).RunsTo anyAnswers past outcome now ↔
      ∃ root, (next root).RunsTo anyAnswers (saw root :: past) outcome now := by
  rw [runsTo_bind]
  constructor
  · rintro (⟨root, u, seen, rest⟩ | ⟨f, -, seen⟩)
    · obtain ⟨_, same, rfl⟩ := runsTo_files.mp seen
      cases same
      exact ⟨root, rest⟩
    · obtain ⟨_, same, -⟩ := runsTo_files.mp seen
      cases same
  · rintro ⟨root, rest⟩
    exact .inl ⟨root, _, runsTo_files.mpr ⟨root, rfl, rfl⟩, rest⟩

/-- A look at a path: something stands there, or nothing. -/
inductive PathLook (path : String) : Except Failure (Option Unit) → History → Prop
  | there {root : FileTree} : root.existsAt path = true → PathLook path (.ok (some ())) [saw root]
  | missing {root : FileTree} : root.existsAt path = false → PathLook path (.ok none) [saw root]

theorem isThere_looks (path : String) : Looks (isThere path) (PathLook path) where
  runs_iff outcome made := by
    refine runsTo_files_bind.trans ?_
    constructor
    · intro run
      obtain ⟨root, rest⟩ := run
      obtain ⟨rfl, rfl⟩ := runsTo_pure.mp rest
      cases seen : root.existsAt path with
      | true => exact .there seen
      | false => exact .missing seen
    · intro look
      cases look with
      | @there root seen => exact ⟨root, runsTo_pure.mpr ⟨by rw [seen]; rfl, rfl⟩⟩
      | @missing root seen => exact ⟨root, runsTo_pure.mpr ⟨by rw [seen]; rfl, rfl⟩⟩
  timeless _ _ look := by cases look <;> rfl

/-- What comes of waiting for a path.
- `there`: it is there at one of the looks, of which there are so many;
- `never`: it is there at none of them;
- `brokenOff`: there is no look, because the clock cannot show the time at which the wait would be over. -/
inductive Awaits (finder : Finder) (path : String) : Except Failure String → History → Prop
  | there {made : History} : Begun finder.timeout
      (DecidedAfter (PathLook path) finder.pause (· < attempts finder.timeout finder.pause) (.ok (some ()))) made →
      Awaits finder path (.ok path) made
  | never {made : History} : Begun finder.timeout
      (Undecided (PathLook path) finder.pause (attempts finder.timeout finder.pause)) made →
      Awaits finder path (.error (.deviceNotFound path)) made
  | brokenOff : Awaits finder path (.error .clockOverflow) [⟨.deadline finder.timeout, false⟩]

section

variable {finder : Finder} {path : String} {outcome : Except Failure String} {made : History}

/-- All runs of the looks of a wait for a path. -/
theorem runsTo_pathLooks {late : Failure} : ((poll finder.pause (isThere path)
      (attempts finder.timeout finder.pause) >>= fun o => require o late) >>= fun _ => pure path).RunsTo
        anyAnswers [] outcome made ↔
    (outcome = .ok path ∧
      DecidedAfter (PathLook path) finder.pause (· < attempts finder.timeout finder.pause) (.ok (some ())) made) ∨
      outcome = .error late ∧ Undecided (PathLook path) finder.pause (attempts finder.timeout finder.pause) made := by
  have looks := isThere_looks path
  have polled {u : History} (f : Failure) : ¬(poll finder.pause (isThere path)
      (attempts finder.timeout finder.pause)).RunsTo anyAnswers [] (.error f) u := by
    intro run
    obtain ⟨_, _, _, -, -, look, -⟩ := (runsTo_poll_decided looks (by simp)).mp run
    cases look
  rw [runsTo_bind]
  constructor
  · rintro (⟨_, u, waited, rest⟩ | ⟨f, rfl, waited⟩)
    · obtain ⟨rfl, rfl⟩ := runsTo_pure.mp rest
      rcases runsTo_decided.mp waited with ⟨_, -, run⟩ | ⟨_, same, -⟩ | ⟨same, -⟩
      · exact .inl ⟨rfl, (runsTo_poll_decided looks (by simp)).mp run⟩
      · cases same
      · cases same
    · rcases runsTo_decided.mp waited with ⟨_, same, -⟩ | ⟨g, -, run⟩ | ⟨same, run⟩
      · cases same
      · exact absurd run (polled g)
      · cases same
        exact .inr ⟨rfl, (runsTo_poll_undecided looks).mp run⟩
  · rintro (⟨rfl, decided⟩ | ⟨rfl, undecided⟩)
    · have run := (runsTo_poll_decided looks (by simp)).mpr decided
      exact .inl ⟨(), made, runsTo_decided.mpr (.inl ⟨(), rfl, run⟩), runsTo_pure.mpr ⟨rfl, rfl⟩⟩
    · have run := (runsTo_poll_undecided looks).mpr undecided
      exact .inr ⟨_, rfl, runsTo_decided.mpr (.inr (.inr ⟨rfl, run⟩))⟩

/-- All runs of a wait for a path. -/
theorem runsTo_awaitPath_iff : (awaitPath finder path).RunsTo anyAnswers [] outcome made ↔
    Awaits finder path outcome made := by
  unfold awaitPath pollUntil
  rw [bind_assoc, runsTo_deadline_bind]
  constructor
  · rintro (⟨waited, run, rfl⟩ | ⟨rfl, rfl⟩)
    · rcases runsTo_pathLooks.mp run with ⟨rfl, decided⟩ | ⟨rfl, undecided⟩
      · exact .there ⟨waited, decided, rfl⟩
      · exact .never ⟨waited, undecided, rfl⟩
    · exact .brokenOff
  · intro awaits
    cases awaits with
    | there begun =>
      obtain ⟨waited, decided, rfl⟩ := begun
      exact .inl ⟨waited, runsTo_pathLooks.mpr (.inl ⟨rfl, decided⟩), rfl⟩
    | never begun =>
      obtain ⟨waited, undecided, rfl⟩ := begun
      exact .inl ⟨waited, runsTo_pathLooks.mpr (.inr ⟨rfl, undecided⟩), rfl⟩
    | brokenOff => exact .inr ⟨rfl, rfl⟩

/-! ## The device behind a path -/

/-- What comes of the search for the device behind a path.
- `shown`: a path that is made from a number leads to the device that is shown for the number, at the first look;
- `unshown`: if no disk of the number is shown at the first look, the path is waited for;
- `unnumbered`: any other path is waited for at once. -/
inductive Resolves (finder : Finder) (path : String) : Except Failure String → History → Prop
  | shown {root : FileTree} {number device : String} :
      path = VolumeHandle.devicePathStart ++ number → Shows (root.listed (devicesPath finder.sysfs)) number device →
      Resolves finder path (.ok device) [saw root]
  | unshown {root : FileTree} {number : String} {outcome : Except Failure String} {made : History} :
      path = VolumeHandle.devicePathStart ++ number →
      (∀ e ∈ root.listed (devicesPath finder.sysfs), ¬Qualifies number e) → Awaits finder path outcome made →
      Resolves finder path outcome (made ++ [saw root])
  | unnumbered {outcome : Except Failure String} {made : History} :
      (∀ number, path ≠ VolumeHandle.devicePathStart ++ number) → Awaits finder path outcome made →
      Resolves finder path outcome made

/-- After the first look the device that is shown is taken, or the path is waited for. -/
theorem runsTo_search {root : FileTree} (wf : root.WellFormed) (plain : Pattern.Plain finder.sysfs.toList)
    (number : String) :
    (ofExcept (findByNumber root finder.sysfs number) >>= fun
      | some device => pure device
      | none => awaitPath finder path).RunsTo anyAnswers [saw root] outcome made ↔
      (∃ device, Shows (root.listed (devicesPath finder.sysfs)) number device ∧ outcome = .ok device ∧
        made = [saw root]) ∨
        (∀ e ∈ root.listed (devicesPath finder.sysfs), ¬Qualifies number e) ∧
          ∃ polls, Awaits finder path outcome polls ∧ made = polls ++ [saw root] := by
  obtain ⟨found, search, none_iff, shows_iff⟩ := findByNumber_shows wf plain number
  rw [search]
  simp only [← shows_iff, ← none_iff]
  cases found with
  | some device =>
    refine runsTo_pure.trans ?_
    simp
  | none =>
    have awaits : (awaitPath finder path).RunsTo anyAnswers [saw root] outcome made ↔
        ∃ polls, Awaits finder path outcome polls ∧ made = polls ++ [saw root] := by
      simp only [← runsTo_awaitPath_iff]
      exact runsTo_later
    refine Iff.trans awaits ?_
    simp

/-- A path that is not made from a number is waited for at once. -/
theorem runsTo_resolve_unnumbered (cut : Text.dropStart? VolumeHandle.devicePathStart.toList path.toList = none) :
    (resolve finder path).RunsTo anyAnswers [] outcome made ↔ Resolves finder path outcome made := by
  have other (number : String) : path ≠ VolumeHandle.devicePathStart ++ number := by
    rintro rfl
    exact Text.isNone_dropStart?_iff.mp (Option.isNone_iff_eq_none.mpr cut) (by simp)
  unfold resolve
  rw [cut]
  refine runsTo_awaitPath_iff.trans ⟨.unnumbered other, fun resolves => ?_⟩
  cases resolves with
  | shown start => exact absurd start (other _)
  | unshown start => exact absurd start (other _)
  | unnumbered _ awaits => exact awaits

/-- A path that is made from a number is looked up by the number at the first look at the files. -/
theorem runsTo_resolve_numbered (wf : made.SeesWellFormed) (plain : Pattern.Plain finder.sysfs.toList)
    {number : List Char} (cut : Text.dropStart? VolumeHandle.devicePathStart.toList path.toList = some number) :
    (resolve finder path).RunsTo anyAnswers [] outcome made ↔ Resolves finder path outcome made := by
  have start : path = VolumeHandle.devicePathStart ++ String.ofList number :=
    String.toList_injective (by simp [Text.dropStart?_eq_some_iff.mp cut])
  have own {other : String} (again : path = VolumeHandle.devicePathStart ++ other) : other = String.ofList number := by
    have same := congrArg String.toList (again.symm.trans start)
    rw [String.toList_append, String.toList_append] at same
    exact String.toList_injective (List.append_cancel_left same)
  unfold resolve
  rw [cut]
  refine runsTo_files_bind.trans ⟨fun run => ?_, fun resolves => ?_⟩
  · obtain ⟨root, run⟩ := run
    obtain ⟨later, -, rfl⟩ := runsTo_later.mp run
    have seen : root.WellFormed := wf root (List.mem_append_right later List.mem_cons_self)
    rcases (runsTo_search seen plain _).mp run with ⟨device, shows, rfl, same⟩ | ⟨none, polls, awaits, same⟩
    · rw [same]
      exact .shown start shows
    · rw [same]
      exact .unshown start none awaits
  · cases resolves with
    | @shown root other device again shows =>
      obtain rfl := own again
      have seen : root.WellFormed := wf root List.mem_cons_self
      exact ⟨root, (runsTo_search seen plain _).mpr (.inl ⟨device, shows, rfl, rfl⟩)⟩
    | @unshown root other _ polls again none awaits =>
      obtain rfl := own again
      have seen : root.WellFormed := wf root (List.mem_append_right polls List.mem_cons_self)
      exact ⟨root, (runsTo_search seen plain _).mpr (.inr ⟨none, polls, awaits, rfl⟩)⟩
    | unnumbered unmade => exact absurd start (unmade _)

/-- All runs of the search for the device behind a path. -/
theorem runsTo_resolve_iff (wf : made.SeesWellFormed) (plain : Pattern.Plain finder.sysfs.toList) :
    (resolve finder path).RunsTo anyAnswers [] outcome made ↔ Resolves finder path outcome made := by
  cases cut : Text.dropStart? VolumeHandle.devicePathStart.toList path.toList with
  | none => exact runsTo_resolve_unnumbered cut
  | some number => exact runsTo_resolve_numbered wf plain cut

/-- A search at a site is not broken off, if the clock can show the time at which a wait is over. -/
theorem run_resolve_begun {s : Site} (inTime : s.clock + finder.timeout < Site.clockEnd)
    (resolves : Resolves finder path (Site.run (resolve finder path) s).1 (Site.exchanges (resolve finder path) s)) :
    (Site.run (resolve finder path) s).1 ≠ .error .clockOverflow := by
  intro broken
  rw [broken] at resolves
  -- the clock was asked last, and no time had passed
  obtain ⟨past, made, timeless⟩ : ∃ past : History, Site.exchanges (resolve finder path) s =
      ⟨.deadline finder.timeout, false⟩ :: past ∧ past.elapsed = 0 := by
    generalize Site.exchanges (resolve finder path) s = made at resolves
    cases resolves with
    | unshown _ _ awaits =>
      cases awaits
      exact ⟨_, rfl, rfl⟩
    | unnumbered _ awaits =>
      cases awaits
      exact ⟨_, rfl, rfl⟩
  have replays := Site.replays_exchanges (resolve finder path) s
  rw [made] at replays
  obtain ⟨t, before, answered⟩ := replays.latest
  have unshown : decide (t.clock + finder.timeout < Site.clockEnd) = false := congrArg Prod.fst answered
  rw [Site.clock_of_replays before, timeless, Nat.add_zero, decide_eq_true inTime] at unshown
  cases unshown

end

/-- **Exact discovery.** The path at which the system shows its devices has no wildcards.
- What is found by a number in a well-formed tree is the first block device of the first disk of that number, in the
  order of the names byte by byte, and nothing exactly if no entry of the folder of devices is a disk of it. The
  entries are listed in any order, and their names need not be texts.
- As long as well-formed trees are seen, the search for the device behind a path comes to the device that is shown for
  the number in the path, to the path itself if it is there at one of the looks of a wait, and to the failure to find
  it if it is there at none of them; it comes to nothing else, and to each of these, if the clock can show the time at
  which the wait is over.
- So it does at every site with well-formed files, whose clock says so of that time if it is one that can be shown. -/
theorem discovery_exact (finder : Finder) (plain : Pattern.Plain finder.sysfs.toList) :
    (∀ root : FileTree, root.WellFormed → ∀ number, ∃ found, findByNumber root finder.sysfs number = .ok found ∧
      (found = none ↔ ∀ e ∈ root.listed (devicesPath finder.sysfs), ¬Qualifies number e) ∧
      ∀ device, found = some device ↔ Shows (root.listed (devicesPath finder.sysfs)) number device) ∧
    (∀ path outcome (made : History), made.SeesWellFormed →
      ((resolve finder path).RunsTo anyAnswers [] outcome made ↔ Resolves finder path outcome made)) ∧
    ∀ s : Site, s.files.WellFormed → ∀ path,
      Resolves finder path (Site.run (resolve finder path) s).1 (Site.exchanges (resolve finder path) s) ∧
        (s.clock + finder.timeout < Site.clockEnd →
          (Site.run (resolve finder path) s).1 ≠ .error .clockOverflow) := by
  refine ⟨fun root wf number => findByNumber_shows wf plain number,
    fun path outcome made wf => runsTo_resolve_iff wf plain, fun s wf path => ?_⟩
  have seen := (Site.wellFormed_replays (Site.replays_exchanges (resolve finder path) s) wf).2
  have resolves := (runsTo_resolve_iff seen plain).mp (Site.runsTo_exchanges (resolve finder path) s)
  exact ⟨resolves, fun inTime => run_resolve_begun inTime resolves⟩

/-! ### Two disks of one number -/

namespace TwoDisks

def finder : Finder where
  sysfs := "/sys"

/-- A device as the system shows it. -/
def device (wwid : String) (blocks : List (FileName × FileTree)) : FileTree :=
  .folder [("wwid", .file wwid), ("block", .folder blocks), ("vendor", .file "QEMU    \n")]

/-- A name in which no text is written. -/
def untold : FileName :=
  .bytes [0x20, 0xff] (by decide)

/-- The first disk of the number has no block device whose name is a text, the second one has two. -/
def devices : List (FileName × FileTree) :=
  [(untold, device "naa.5000c500bbbbbbbb\n" [("sdc", .folder [])]),
    ("0:0:0:1", device "5000C500BBBBBBBB\n" [("sdb", .folder []), (untold, .folder []), ("sda", .folder [])]),
    ("0:0:0:0", device "naa.5000c500bbbbbbbb\n" [(untold, .folder [])])]

def site : Site where
  files := .folder [("sys", .folder [("bus", .folder [("scsi", .folder [("devices", .folder devices)])])])]

/-- A folder is well-formed if its names are, and what stands in it. -/
theorem wellFormed_folder {entries : List (FileName × FileTree)} (names : List FileName)
    (named : entries.map Prod.fst = names) (distinct : names.Nodup)
    (short : ∀ name ∈ names, name.size ≤ FileTree.maxName)
    (children : ∀ t ∈ entries.map Prod.snd, t.WellFormed) : (FileTree.folder entries).WellFormed := by
  subst named
  exact .folder distinct (List.forall_mem_map.mp short) (List.forall_mem_map.mp children)

theorem wellFormed_device (wwid : String) {blocks : List (FileName × FileTree)}
    (h : (FileTree.folder blocks).WellFormed) : (device wwid blocks).WellFormed := by
  refine wellFormed_folder ["wwid", "block", "vendor"] rfl (by decide) (by decide) ?_
  simp [h, FileTree.WellFormed.file]

theorem wellFormed_files : site.files.WellFormed := by
  have only {name : FileName} {t : FileTree} (short : name.size ≤ FileTree.maxName) (h : t.WellFormed) :
      (FileTree.folder [(name, t)]).WellFormed :=
    wellFormed_folder [name] rfl (List.nodup_singleton _) (List.forall_mem_singleton.mpr short)
      (List.forall_mem_singleton.mpr h)
  have blocks : (FileTree.folder [("sdb", .folder []), (untold, .folder []), ("sda", .folder [])]).WellFormed := by
    refine wellFormed_folder ["sdb", untold, "sda"] rfl (by decide) (by decide) ?_
    exact List.forall_mem_cons.mpr ⟨.empty, List.forall_mem_cons.mpr ⟨.empty, List.forall_mem_singleton.mpr .empty⟩⟩
  have shown : (FileTree.folder devices).WellFormed := by
    refine wellFormed_folder [untold, "0:0:0:1", "0:0:0:0"] rfl (by decide) (by decide) ?_
    exact List.forall_mem_cons.mpr ⟨wellFormed_device _ (only (by decide) .empty), List.forall_mem_cons.mpr
      ⟨wellFormed_device _ blocks, List.forall_mem_singleton.mpr (wellFormed_device _ (only (by decide) .empty))⟩⟩
  exact only (by decide) (only (by decide) (only (by decide) (only (by decide) shown)))

end TwoDisks

/-- Of two disks of one number the first block device of the second one is shown, because the first one has none whose
name is a text; the path that is made from the number leads there, and a path at which nothing stands is waited for in
vain. -/
theorem discovery_exact_second :
    findByNumber TwoDisks.site.files TwoDisks.finder.sysfs "5000c500bbbbbbbb" = .ok (some "/dev/sda") ∧
      Shows (TwoDisks.site.files.listed (devicesPath TwoDisks.finder.sysfs)) "5000c500bbbbbbbb" "/dev/sda" ∧
      (Site.run (resolve TwoDisks.finder "/dev/disk/by-id/wwn-0x5000c500bbbbbbbb") TwoDisks.site).1 = .ok "/dev/sda" ∧
      Resolves TwoDisks.finder "/dev/sdz" (.error (.deviceNotFound "/dev/sdz"))
        (Site.exchanges (resolve TwoDisks.finder "/dev/sdz") TwoDisks.site) := by
  obtain ⟨finds, -, ends⟩ := discovery_exact TwoDisks.finder (by decide +kernel)
  have wf := TwoDisks.wellFormed_files
  have search : findByNumber TwoDisks.site.files TwoDisks.finder.sysfs "5000c500bbbbbbbb" = .ok (some "/dev/sda") :=
    eq_ok_of_toOption (by decide +kernel)
  refine ⟨search, ?_, ?_, ?_⟩
  · obtain ⟨found, same, -, shows⟩ := finds _ wf "5000c500bbbbbbbb"
    obtain rfl : found = some "/dev/sda" := Except.ok.inj (same.symm.trans search)
    exact (shows "/dev/sda").mp rfl
  · have start : "/dev/disk/by-id/wwn-0x5000c500bbbbbbbb" = VolumeHandle.devicePathStart ++ "5000c500bbbbbbbb" := by
      decide +kernel
    rw [start, run_resolve search]
  · have vain : (Site.run (resolve TwoDisks.finder "/dev/sdz") TwoDisks.site).1 =
        .error (.deviceNotFound "/dev/sdz") :=
      Site.run_fails (awaitPath_fails (by decide) (Pattern.existsAt_of_lost (by decide)))
    have waits := (ends TwoDisks.site wf "/dev/sdz").1
    rwa [vain] at waits

end Device

end ClusterVolumes
