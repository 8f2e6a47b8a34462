import ClusterVolumes.Proofs.Courses
import ClusterVolumes.Proofs.Device.Lookup
import ClusterVolumes.Proofs.NodeVolume.Lifecycle

/-!
# Staging volumes, from the request to the mount

A request to stage a volume passes guards one after the other, and each of them may end it. `Formats` is the course of a
request that has passed them all: the call that makes a file system is the last one, and `Settings` is what it is told.
`stage_takes` follows a request through the guards, and `stage_mounts` says that a path is mounted when its staging
succeeds.
-/

namespace ClusterVolumes.NodeVolume

open Csi Service

/-! ## What a file system is made and mounted with -/

/-- The flags are followed by an item if it is wanted and not among them, and by nothing otherwise. -/
structure Completes (flags : List String) (item : String) (wanted : Prop) (all : List String) : Prop where
  added : wanted → item ∉ flags → all = flags ++ [item]
  kept : ¬(wanted ∧ item ∉ flags) → all = flags

theorem completes_including (flags : List String) (item : String) (wanted : Prop) [Decidable wanted] :
    Completes flags item wanted (if wanted then including flags item else flags) where
  added := by
    intro asked missing
    rw [if_pos asked, including, if_neg (by simpa using missing)]
  kept := by
    intro settled
    split
    · rename_i asked
      have present : item ∈ flags := Decidable.of_not_not fun missing => settled ⟨asked, missing⟩
      rw [including, if_pos (by simpa using present)]
    · rfl

/-- A size that is set is told to the program that makes a file system of a type by a flag and a text. -/
inductive TellsSize (o : VolumeOptions) : (fsType flag text : String) → Prop
  | extBlock {fsType : String} {n : UInt32} (type : fsType = "ext2" ∨ fsType = "ext3" ∨ fsType = "ext4")
      (set : o.blockSize = some n) : TellsSize o fsType "-b" (toString n.toNat)
  | extInode {fsType : String} {n : UInt32} (type : fsType = "ext2" ∨ fsType = "ext3" ∨ fsType = "ext4")
      (set : o.inodeSize = some n) : TellsSize o fsType "-I" (toString n.toNat)
  | xfsBlock {n : UInt32} (set : o.blockSize = some n) : TellsSize o "xfs" "-b" ("size=" ++ toString n.toNat)
  | xfsInode {n : UInt32} (set : o.inodeSize = some n) : TellsSize o "xfs" "-i" ("size=" ++ toString n.toNat)

/-- The arguments are the sizes that are set, each told once by its flag and its text, and nothing else. -/
def NamesSizes (o : VolumeOptions) (fsType : String) (arguments : List String) : Prop :=
  ∃ pairs : List (String × String), arguments = pairs.flatMap (fun p => [p.1, p.2]) ∧ pairs.Nodup ∧
    ∀ flag text, (flag, text) ∈ pairs ↔ TellsSize o fsType flag text

/-- A flag and a size, if it is set. -/
def sizePairs (flag before : String) (size : Option UInt32) : List (String × String) :=
  size.toList.map fun n => (flag, before ++ toString n.toNat)

theorem sizeArguments_eq (flag before : String) (size : Option UInt32) :
    VolumeOptions.sizeArguments flag before size = (sizePairs flag before size).flatMap fun p => [p.1, p.2] := by
  cases size <;> rfl

theorem mem_sizePairs {flag before f text : String} {size : Option UInt32} :
    (f, text) ∈ sizePairs flag before size ↔ f = flag ∧ ∃ n, size = some n ∧ text = before ++ toString n.toNat := by
  cases size <;> simp [sizePairs, eq_comm]

/-- Two sizes with different flags are told in two pairs. -/
theorem nodup_sizePairs {flag other before : String} (h : flag ≠ other) (size more : Option UInt32) :
    (sizePairs flag before size ++ sizePairs other before more).Nodup := by
  cases size <;> cases more <;> simp [sizePairs, h]

/-- Two flags with one text before each size name the sizes, if these are all that there are to tell. -/
theorem namesSizes_of {o : VolumeOptions} {fsType block inode before : String} (different : block ≠ inode)
    (told : ∀ flag text, TellsSize o fsType flag text ↔
      (flag = block ∧ ∃ n, o.blockSize = some n ∧ text = before ++ toString n.toNat) ∨
        flag = inode ∧ ∃ n, o.inodeSize = some n ∧ text = before ++ toString n.toNat) :
    NamesSizes o fsType (VolumeOptions.sizeArguments block before o.blockSize ++
      VolumeOptions.sizeArguments inode before o.inodeSize) := by
  refine ⟨sizePairs block before o.blockSize ++ sizePairs inode before o.inodeSize, ?_,
    nodup_sizePairs different _ _, fun flag text => ?_⟩
  · rw [List.flatMap_append, sizeArguments_eq, sizeArguments_eq]
  · rw [List.mem_append, mem_sizePairs, mem_sizePairs, told]

theorem mkfsArguments_nameSizes (o : VolumeOptions) (fsType : String) :
    NamesSizes o fsType (o.mkfsArguments fsType) := by
  unfold VolumeOptions.mkfsArguments
  split
  · rename_i ext
    refine namesSizes_of (by decide) fun flag text => ?_
    simp only [String.empty_append]
    constructor
    · rintro (⟨-, set⟩ | ⟨-, set⟩ | set | set)
      · exact .inl ⟨rfl, _, set, rfl⟩
      · exact .inr ⟨rfl, _, set, rfl⟩
      · exact absurd ext (by decide)
      · exact absurd ext (by decide)
    · rintro (⟨rfl, n, set, rfl⟩ | ⟨rfl, n, set, rfl⟩)
      · exact .extBlock ext set
      · exact .extInode ext set
  rename_i notExt
  split
  · rename_i xfs
    subst xfs
    refine namesSizes_of (by decide) fun flag text => ?_
    constructor
    · rintro (⟨ext, -⟩ | ⟨ext, -⟩ | set | set)
      · exact absurd ext notExt
      · exact absurd ext notExt
      · exact .inl ⟨rfl, _, set, rfl⟩
      · exact .inr ⟨rfl, _, set, rfl⟩
    · rintro (⟨rfl, n, set, rfl⟩ | ⟨rfl, n, set, rfl⟩)
      · exact .xfsBlock set
      · exact .xfsInode set
  · rename_i notXfs
    refine ⟨[], rfl, .nil, fun flag text => ⟨nofun, ?_⟩⟩
    rintro (⟨ext, -⟩ | ⟨ext, -⟩ | - | -)
    · exact absurd ext notExt
    · exact absurd ext notExt
    · exact absurd rfl notXfs
    · exact absurd rfl notXfs

/-- What a file system is made and mounted with: its type is the one that is asked for, and ext4 if none is; the mount
has the flags of the capability, then `discard` for a disk on an SSD and `nouuid` for an xfs unless they are among them;
and the sizes of the volume are told in the way of the type. -/
structure Settings (c : VolumeCapability) (o : VolumeOptions) (fsType : String) (flags arguments : List String) :
    Prop where
  type : fsType = if c.fsType = "" then "ext4" else c.fsType
  flags : ∃ most, Completes c.mountFlags "discard" (o.ssd = true) most ∧ Completes most "nouuid" (fsType = "xfs") flags
  sizes : NamesSizes o fsType arguments

theorem fsTypeOf_eq (c : VolumeCapability) : fsTypeOf c = if c.fsType = "" then "ext4" else c.fsType := by
  simp [fsTypeOf, defaultFsType]

/-- A volume is staged with its settings. -/
theorem stage_settings (c : VolumeCapability) (o : VolumeOptions) :
    Settings c o (fsTypeOf c) (stageOptions c o) (o.mkfsArguments (fsTypeOf c)) where
  type := fsTypeOf_eq c
  flags := by
    refine ⟨_, completes_including c.mountFlags "discard" (o.ssd = true), ?_⟩
    have most : o.mountOptions.foldl including c.mountFlags =
        if o.ssd = true then including c.mountFlags "discard" else c.mountFlags := by
      unfold VolumeOptions.mountOptions
      split <;> rfl
    rw [stageOptions, most]
    exact completes_including _ "nouuid" (fsTypeOf c = "xfs")
  sizes := mkfsArguments_nameSizes o (fsTypeOf c)

/-! ## The guards -/

/-- A request that is complete: it names the volume, the staging path, the use of the volume and the path of its
device. -/
structure Complete (request : NodeStageVolumeRequest) (c : VolumeCapability) (path : String) : Prop where
  volume : request.volumeId ≠ ""
  staging : request.stagingTargetPath ≠ ""
  capability : request.volumeCapability = some c
  told : request.publishContext.get? Provisioning.publishDevicePath = some path
  path : path ≠ ""

theorem devicePathOf_eq_ok_iff {context : StringMap} {path : String} : devicePathOf context = .ok path ↔
    context.get? Provisioning.publishDevicePath = some path ∧ path ≠ "" := by
  unfold devicePathOf
  split
  · rename_i found told
    obtain ⟨there, filled⟩ := Option.filter_eq_some_iff.mp told
    constructor
    · rintro ⟨⟩
      exact ⟨there, by simpa using filled⟩
    · rintro ⟨same, -⟩
      exact congrArg Except.ok (Option.some.inj (there.symm.trans same))
  · rename_i missing
    refine ⟨nofun, ?_⟩
    rintro ⟨there, filled⟩
    rw [there] at missing
    simp [Option.filter, filled] at missing

/-- A plan can be read from a request only if it is complete. -/
theorem stagePlanOf_complete {request : NodeStageVolumeRequest} {plan : StagePlan}
    (h : stagePlanOf request = .ok plan) : Complete request plan.capability plan.devicePath := by
  have told := stagePlanOf_capability h
  simp only [stagePlanOf, bind, Except.bind, told] at h
  split at h
  · cases h
  rename_i volume
  split at h
  · cases h
  rename_i staging
  split at h
  · cases h
  rename_i path found
  obtain rfl : path = plan.devicePath := congrArg StagePlan.devicePath (Except.ok.inj h)
  obtain ⟨there, filled⟩ := devicePathOf_eq_ok_iff.mp found
  exact ⟨required_eq_ok_iff.mp volume, required_eq_ok_iff.mp staging, told, there, filled⟩

/-! ## The course of a request -/

/-- The course of a request that comes to make a file system. The request is complete and not for a bare disk. Nothing
is mounted at the staging path, the options of the volume can be read, its device is found and the folder is there; then
the device is made ready and mounted, which is the last that is done and the only mount. -/
structure Formats (finder : Device.Finder) (request : NodeStageVolumeRequest) (c : VolumeCapability) (o : VolumeOptions)
    (path device : String) (found : History) (outcome : Except Failure Unit) (made : History) : Prop where
  complete : Complete request c path
  fileSystem : c.isBlock = false
  options : VolumeOptions.ofMap request.volumeContext = .ok o
  resolved : (Device.resolve finder path).RunsTo anyAnswers [] (.ok device) found
  course : ∃ fsType flags arguments, Settings c o fsType flags arguments ∧
    made = ⟨.mounts (.formatAndMount device request.stagingTargetPath fsType flags arguments), outcome⟩ ::
      ⟨.makeFolders request.stagingTargetPath, .ok ()⟩ ::
        (found ++ [⟨.mounts (.isMountPoint request.stagingTargetPath), .ok false⟩])
  once : made.mountTargets = [request.stagingTargetPath]

/-- There is nothing to do for a request: it is for a bare disk, or something is mounted at its staging path already. -/
def NothingToDo (request : NodeStageVolumeRequest) (made : History) : Prop :=
  (∃ c, request.volumeCapability = some c ∧ c.isBlock = true) ∨
    ⟨.mounts (.isMountPoint request.stagingTargetPath), .ok true⟩ ∈ made

/-- How a request may go: it mounts nothing, which is no failure only if there is nothing to do, or it comes to make a
file system. -/
def Stages (finder : Device.Finder) (request : NodeStageVolumeRequest) (outcome : Except Failure Unit)
    (made : History) : Prop :=
  (made.mountTargets = [] ∧ (outcome = .ok () → NothingToDo request made)) ∨
    ∃ c o path device found, Formats finder request c o path device found outcome made

theorem Stages.of_failed {finder : Device.Finder} {request : NodeStageVolumeRequest} {f : Failure} {made : History}
    (h : made.mountTargets = []) : Stages finder request (.error f) made :=
  .inl ⟨h, nofun⟩

/-- To find a device mounts nothing. -/
theorem resolve_mountTargets {finder : Device.Finder} {path : String} {outcome : Except Failure String}
    {found : History} (run : (Device.resolve finder path).RunsTo anyAnswers [] outcome found) :
    found.mountTargets = [] := by
  have apart : (Device.resolve finder path).Asks Apart := Device.resolve_asks nofun nofun nofun path
  refine List.filterMap_eq_nil_iff.mpr fun e mem => ?_
  exact (apart.takes outcome found run e mem).mountTarget?

/-- Making a folder is one exchange, and it fails if the folder cannot be made. -/
theorem ensureFolder_takes (path : String) : (ensureFolder path).Takes fun outcome made =>
    ∃ x : Except SystemFailure Unit, made = [⟨.makeFolders path, x⟩] ∧ (outcome = .ok () → x = .ok ()) := by
  unfold ensureFolder
  refine (takes_makeFolders (Q := fun x made => ∃ a, x = .ok a ∧ made = [⟨.makeFolders path, a⟩])
    fun a => ⟨a, rfl, rfl⟩).bind ?_ ?_
  · rintro a _ ⟨_, ⟨⟩, rfl⟩
    cases a with
    | error e => exact takes_throw ⟨.error e, rfl, nofun⟩
    | ok _ => exact takes_pure ⟨.ok (), rfl, fun _ => rfl⟩
  · rintro f _ ⟨a, failed, -⟩
    cases failed

/-- What is done for a complete request for a file system when nothing is mounted at its staging path and its options
are read. -/
theorem rest_takes {finder : Device.Finder} {request : NodeStageVolumeRequest} {c : VolumeCapability}
    {o : VolumeOptions} {path : String} (complete : Complete request c path) (fileSystem : c.isBlock = false)
    (options : VolumeOptions.ofMap request.volumeContext = .ok o) :
    (do
      let device ← Device.resolve finder path
      ensureFolder request.stagingTargetPath
      Service.mounts (.formatAndMount device request.stagingTargetPath (fsTypeOf c) (stageOptions c o)
        (o.mkfsArguments (fsTypeOf c))) : Service Unit).Takes fun outcome made =>
      Stages finder request outcome (made ++ [⟨.mounts (.isMountPoint request.stagingTargetPath), .ok false⟩]) := by
  refine takes_runs.bind (fun device found resolved => ?_) fun f found failed => ?_
  · have calm := resolve_mountTargets resolved
    refine (ensureFolder_takes request.stagingTargetPath).bind ?_ ?_
    · rintro _ _ ⟨x, rfl, succeeded⟩
      obtain rfl := succeeded rfl
      refine takes_mounts fun outcome => .inr ⟨c, o, path, device, found, ?_⟩
      exact
        { complete, fileSystem, options, resolved
          course := ⟨_, _, _, stage_settings c o, by simp⟩
          once := by simp [calm, Call.mountTarget?] }
    · rintro f _ ⟨x, rfl, -⟩
      exact .of_failed (by simp [calm, Call.mountTarget?])
  · have calm := resolve_mountTargets failed
    exact .of_failed (by simp [calm, Call.mountTarget?])

/-- A request passes the guards one after the other. -/
theorem stage_takes (finder : Device.Finder) (request : NodeStageVolumeRequest) :
    (stage finder request).Takes (Stages finder request) := by
  unfold stage
  cases read : stagePlanOf request with
  | error f => exact takes_throw (.of_failed rfl)
  | ok plan =>
    have complete := stagePlanOf_complete read
    have staging : plan.staging = request.stagingTargetPath := NodeCall.stagePlanOf_staging read
    have taken : Service.ofExcept (.ok plan) = pure plan := rfl
    rw [taken, pure_bind, staging]
    split
    · rename_i block
      exact takes_pure (.inl ⟨rfl, fun _ => .inl ⟨_, complete.capability, block⟩⟩)
    rename_i notBlock
    have fileSystem : plan.capability.isBlock = false := Bool.eq_false_iff.mpr notBlock
    refine (takes_mounts (Q := fun x made => made = [⟨.mounts (.isMountPoint request.stagingTargetPath), x⟩])
      fun x => rfl).bind ?_ ?_
    · rintro mounted _ rfl
      cases mounted with
      | true => exact takes_pure (.inl ⟨rfl, fun _ => .inr List.mem_cons_self⟩)
      | false =>
        cases options : VolumeOptions.ofMap request.volumeContext with
        | error f => exact takes_throw (.of_failed rfl)
        | ok o => exact rest_takes complete fileSystem options
    · rintro f _ rfl
      exact .of_failed rfl

/-! ## What is mounted afterwards -/

/-- If the staging path is mounted when that is said of it, and when a file system was mounted there, then it is mounted
after a file system was staged without failure. -/
theorem stage_mounts {σ : Type} {E : Environment collaborators σ} {Mounted : σ → Prop} (finder : Device.Finder)
    {request : NodeStageVolumeRequest} {c : VolumeCapability}
    (said : ∀ s t, E s (.mounts (.isMountPoint request.stagingTargetPath)) (.ok true) t → Mounted t)
    (mounts : ∀ s t device fsType flags arguments,
      E s (.mounts (.formatAndMount device request.stagingTargetPath fsType flags arguments)) (.ok ()) t → Mounted t)
    (capability : request.volumeCapability = some c) (fileSystem : c.isBlock = false) (s : σ) :
    Ensures E (fun _ _ => True) (stage finder request) (fun _ t => Mounted t) (fun _ _ => True) s := by
  unfold stage
  refine ensures_bind.mpr (ensures_ofExcept.mpr ?_)
  cases read : stagePlanOf request with
  | error f => trivial
  | ok plan =>
    have staging : plan.staging = request.stagingTargetPath := NodeCall.stagePlanOf_staging read
    have same : plan.capability = c := Option.some.inj ((stagePlanOf_capability read).symm.trans capability)
    dsimp only [onOutcome]
    rw [same, fileSystem, if_neg Bool.false_ne_true, staging]
    refine ensures_bind.mpr (ensures_mounts.mpr ⟨trivial, fun x t answered => ?_⟩)
    rcases x with f | mounted
    · trivial
    cases mounted with
    | true => exact said s t answered
    | false =>
      refine ensures_bind.mpr (ensures_trivial.post (fun o t _ => ?_) fun _ _ h => h)
      refine ensures_bind.mpr (ensures_trivial.post (fun device t _ => ?_) fun _ _ h => h)
      refine ensures_bind.mpr (ensures_trivial.post (fun _ t _ => ?_) fun _ _ h => h)
      refine ensures_mounts.mpr ⟨trivial, fun x u answered => ?_⟩
      cases x with
      | error f => trivial
      | ok _ => exact mounts t u _ _ _ _ answered

/-- **Staging a volume.** Whatever is answered, a request to stage a volume mounts at most once. It does so only when it
is complete and not for a bare disk, nothing is mounted at its staging path, the options of the volume can be read and
its device is found; and then it mounts this device with its settings and ends as that call does. A request that mounts
nothing fails, unless there is nothing to do for it.

If a path is mounted whenever that is said of it, and after a file system was mounted there, then it is mounted after
every request that stages a file system there without failure. -/
theorem stage_end_to_end (finder : Device.Finder) (request : NodeStageVolumeRequest) :
    (∀ outcome made, (stage finder request).RunsTo anyAnswers [] outcome made →
      (made.mountTargets = [] ∧ (outcome = .ok () → NothingToDo request made)) ∨
        ∃ c o path device found, Formats finder request c o path device found outcome made) ∧
    ∀ {σ : Type} (E : Environment collaborators σ) (Mounted : σ → Prop),
      (∀ s t, E s (.mounts (.isMountPoint request.stagingTargetPath)) (.ok true) t → Mounted t) →
      (∀ s t device fsType flags arguments,
        E s (.mounts (.formatAndMount device request.stagingTargetPath fsType flags arguments)) (.ok ()) t →
          Mounted t) →
      ∀ c, request.volumeCapability = some c → c.isBlock = false → ∀ s t,
        (stage finder request).RunsTo E s (.ok ()) t → Mounted t := by
  refine ⟨stage_takes finder request, fun E Mounted said mounts c capability fileSystem s t run => ?_⟩
  exact (stage_mounts finder said mounts capability fileSystem s).runsTo_ok run

/-! ### A new disk -/

namespace NewDisk

/-- A disk on an SSD is to be staged as an xfs. -/
def request : NodeStageVolumeRequest where
  volumeId := "r1/z1/data/vm-9999-pvc-1"
  publishContext := TextMap.ofList [(Provisioning.publishDevicePath, "/dev/sdb")]
  stagingTargetPath := "/staged"
  volumeCapability := some
    { accessMode := ⟨.singleNodeWriter⟩, mount := some { fsType := "xfs", mountFlags := ["noatime"] } }
  volumeContext := TextMap.ofList [("ssd", "true"), ("blockSize", "4096")]

/-- The disk is there. -/
def files : FileTree := .folder [("dev", .folder [("sdb", .blockDevice)])]

/-- Nothing is mounted at the staging path, the disk is seen, and it is made ready and mounted. -/
def made : History :=
  [⟨.mounts (.formatAndMount "/dev/sdb" "/staged" "xfs" ["noatime", "discard", "nouuid"] ["-b", "size=4096"]), .ok ()⟩,
    ⟨.makeFolders "/staged", .ok ()⟩, ⟨.files, files⟩, ⟨.deadline 0, true⟩,
    ⟨.mounts (.isMountPoint "/staged"), .ok false⟩]

/-- The disk is mounted at the staging path. -/
def mounted : Site.MountTable where
  mounted := Keyed.empty.put "/staged" (some "/dev/sdb")

theorem seen : files.existsAt "/dev/sdb" = true := by
  have noNul : "/dev/sdb".contains '\x00' = false := by simp
  unfold FileTree.existsAt FileTree.find FileTree.place
  rw [noNul]
  decide +kernel

theorem runs : (stage ⟨"/sys", 0, 1⟩ request).RunsTo tableAnswers ({}, []) (.ok ()) (mounted, made) := by
  unfold stage
  refine runsTo_bind.mpr (.inl ⟨⟨"/staged", _, "/dev/sdb"⟩, _, runsTo_ofExcept.mpr ⟨rfl, rfl⟩, ?_⟩)
  refine .ask _ (obliging_allowed _ _ _) ?_
  refine runsTo_bind.mpr (.inl ⟨{ ssd := true, blockSize := some 4096 }, _, runsTo_ofExcept.mpr ⟨?_, rfl⟩, ?_⟩)
  · rfl
  refine runsTo_bind.mpr (.inl ⟨_, (_, _), Device.runsTo_awaitPath (obliging_allowed _ _ _) ⟨rfl, rfl⟩ seen, ?_⟩)
  exact .ask _ (obliging_allowed _ _ _) (.ask _ (obliging_allowed _ _ _) (.done _ _))

end NewDisk

/-- The disk is made ready as an xfs and mounted, with the flags that follow from the volume and from the type. -/
theorem stage_new_disk :
    (stage ⟨"/sys", 0, 1⟩ NewDisk.request).RunsTo anyAnswers [] (.ok ()) NewDisk.made ∧
      (∃ c o path device found, Formats ⟨"/sys", 0, 1⟩ NewDisk.request c o path device found (.ok ()) NewDisk.made) ∧
      (NewDisk.mounted.mounted "/staged").isSome = true := by
  have run := Program.RunsTo.remembered remembers_tableAnswers NewDisk.runs
  have staged := stage_end_to_end ⟨"/sys", 0, 1⟩ NewDisk.request
  refine ⟨run, ?_, ?_⟩
  · rcases staged.1 _ _ run with ⟨nothing, -⟩ | formats
    · cases nothing
    · exact formats
  · refine staged.2 tableAnswers (fun s => (s.1.mounted "/staged").isSome = true) ?_ ?_ _ rfl rfl _ _ NewDisk.runs
    · rintro s t ⟨-, answered⟩
      obtain ⟨told, same⟩ := Prod.mk.inj answered
      rw [← same]
      exact Except.ok.inj told
    · rintro s t device fsType flags arguments ⟨-, answered⟩
      rw [← (Prod.mk.inj answered).2]
      rfl

end ClusterVolumes.NodeVolume
