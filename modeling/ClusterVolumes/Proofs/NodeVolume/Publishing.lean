import ClusterVolumes.Proofs.Courses
import ClusterVolumes.Proofs.NodeVolume.Lifecycle

/-!
# Showing volumes for reading only

Mount options are applied in their order, so of `ro` and `rw` the last one counts (`lastAccess?`). For a pod that is
kept from writing, `ro` is put in front of the flags of the capability. So the volume is shown for reading only unless
the flags give the access back, the last of `ro` and `rw` among them being `rw` (`publish_access`); then it is shown for
writing (`read_only_publish_writable`).
-/

namespace ClusterVolumes.NodeVolume

open Csi Service

/-! ## The access that mount options give -/

/-- The option that tells in the end whether a mount can be written: the last one among `ro` and `rw`. -/
def lastAccess? (options : List String) : Option String :=
  (options.filter fun o => o = "ro" ∨ o = "rw").getLast?

theorem lastAccess?_cons_of_access {a : String} (h : a = "ro" ∨ a = "rw") (options : List String) :
    lastAccess? (a :: options) = some ((lastAccess? options).getD a) := by
  rw [lastAccess?, List.filter_cons_of_pos (by simpa using h), List.getLast?_cons]
  rfl

theorem lastAccess?_cons_of_other {a : String} (h : ¬(a = "ro" ∨ a = "rw")) (options : List String) :
    lastAccess? (a :: options) = lastAccess? options := by
  rw [lastAccess?, List.filter_cons_of_neg (by simpa using h)]
  rfl

/-- There are two kinds of access. -/
theorem access_of_lastAccess? {a : String} {options : List String} (h : lastAccess? options = some a) :
    a = "ro" ∨ a = "rw" := by
  have mem := List.mem_of_getLast? h
  simpa using (List.mem_filter.mp mem).2

/-- Behind `ro`, the access is for reading only unless the other options give it back. -/
theorem lastAccess?_ro_iff (options : List String) :
    lastAccess? ("bind" :: "ro" :: options) = some "ro" ↔ lastAccess? options ≠ some "rw" := by
  rw [lastAccess?_cons_of_other (by decide), lastAccess?_cons_of_access (.inl rfl)]
  cases last : lastAccess? options with
  | none => simp
  | some a =>
    rcases access_of_lastAccess? last with rfl | rfl
    · simp
    · simp

/-! ## The options of a volume that is shown -/

/-- What a request asks for is that the pod is kept from writing. -/
def ForReading (request : NodePublishVolumeRequest) (c : VolumeCapability) : Prop :=
  request.readonly = true ∨ c.mode = .singleNodeReaderOnly

theorem isReadOnly_iff {request : NodePublishVolumeRequest} {c : VolumeCapability} :
    isReadOnly request c.mode = true ↔ ForReading request c := by
  simp [isReadOnly, ForReading]

/-- How the options of a mount keep to what is asked for: what is shown for reading only cannot be written, unless the
flags of the capability give the access back; and to other volumes no `ro` is added. -/
structure KeepsAccess (request : NodePublishVolumeRequest) (c : VolumeCapability) (options : List String) : Prop where
  reading : ForReading request c → (lastAccess? options = some "ro" ↔ lastAccess? c.mountFlags ≠ some "rw")
  writing : ¬ForReading request c → ∃ own, options = own ++ c.mountFlags ∧ "ro" ∉ own

theorem publishOptions_keepAccess (request : NodePublishVolumeRequest) (c : VolumeCapability) :
    KeepsAccess request c (publishOptions request c) where
  reading := by
    intro asked
    rw [publishOptions, if_pos (isReadOnly_iff.mpr asked)]
    exact lastAccess?_ro_iff c.mountFlags
  writing := by
    intro unasked
    refine ⟨["bind", "rw"], ?_, by decide⟩
    rw [publishOptions, if_neg fun readOnly => unasked (isReadOnly_iff.mp readOnly)]
    rfl

/-- The call, if it mounts anything, shows the volume of a request with the access that is asked for. -/
def ShowsAsAsked (request : NodePublishVolumeRequest) (call : Call) : Prop :=
  ∀ path, call.mountTarget? = some path → ∃ c options, request.volumeCapability = some c ∧
    call = .mounts (.mount request.stagingTargetPath request.targetPath none options) ∧ KeepsAccess request c options

theorem showsAsAsked_of_none {request : NodePublishVolumeRequest} {call : Call} (h : call.mountTarget? = none) :
    ShowsAsAsked request call := by
  intro path mounts
  rw [h] at mounts
  cases mounts

theorem publishCapabilityOf_capability {request : NodePublishVolumeRequest} {c : VolumeCapability}
    (h : publishCapabilityOf request = .ok c) : request.volumeCapability = some c := by
  simp only [publishCapabilityOf, bind, Except.bind, throw, throwThe, MonadExceptOf.throw] at h
  split at h
  · cases h
  split at h
  · cases h
  rename_i capability told
  repeat' split at h
  all_goals cases h
  all_goals exact told

theorem publish_asks (request : NodePublishVolumeRequest) : (publish request).Asks (ShowsAsAsked request) := by
  unfold publish
  cases read : publishCapabilityOf request with
  | error f => exact asks_throw
  | ok c =>
    have told := publishCapabilityOf_capability read
    have taken : Service.ofExcept (.ok c) = pure c := rfl
    rw [taken, pure_bind]
    refine (asks_mounts (showsAsAsked_of_none rfl)).bind fun mounted => ?_
    split
    · exact asks_pure
    · refine (ensureFolder_asks (showsAsAsked_of_none rfl)).bind fun _ => asks_mounts ?_
      intro path _
      exact ⟨c, _, told, rfl, publishOptions_keepAccess request c⟩

/-- **Showing a volume for reading only.** Whatever is answered, a request to show a volume mounts nothing but that
volume at its target. If the pod is to be kept from writing, the last of `ro` and `rw` among the options of the mount is
`ro`, unless the last one among the flags of the capability is `rw`. Otherwise no `ro` is added to these flags. -/
theorem publish_access (request : NodePublishVolumeRequest) (outcome : Except Failure Unit) (made : History)
    (run : (publish request).RunsTo anyAnswers [] outcome made) : ∀ e ∈ made, ∀ path,
      Call.mountTarget? e.request = some path → ∃ c options, request.volumeCapability = some c ∧
        e.request = .mounts (.mount request.stagingTargetPath request.targetPath none options) ∧
        KeepsAccess request c options :=
  (publish_asks request).takes outcome made run

/-! ### A volume with mount flags -/

namespace Flagged

/-- A staged volume is to be shown to a pod that is kept from writing. -/
def request (flags : List String) : NodePublishVolumeRequest where
  volumeId := "r1/z1/data/vm-9999-pvc-1"
  publishContext := TextMap.ofList [(Provisioning.publishDevicePath, "/dev/sdb")]
  stagingTargetPath := "/staged"
  targetPath := "/pod"
  volumeCapability := some { accessMode := ⟨.singleNodeWriter⟩, mount := some { mountFlags := flags } }
  readonly := true

/-- Nothing is mounted at the target, its folder is made, and the volume is mounted. -/
def made (flags : List String) : History :=
  [⟨.mounts (.mount "/staged" "/pod" none ("bind" :: "ro" :: flags)), .ok ()⟩, ⟨.makeFolders "/pod", .ok ()⟩,
    ⟨.mounts (.isMountPoint "/pod"), .ok false⟩]

theorem shows (flags : List String) : (publish (request flags)).RunsTo anyAnswers [] (.ok ()) (made flags) := by
  refine .ask (.ok false) rfl (.ask (.ok ()) rfl (.ask (.ok ()) rfl ?_))
  exact .done _ _

end Flagged

/-- With a flag that is no matter of access, the volume is shown for reading only. -/
theorem publish_access_noexec : (publish (Flagged.request ["noexec"])).RunsTo anyAnswers [] (.ok ())
    (Flagged.made ["noexec"]) ∧ ∃ options, (Flagged.made ["noexec"]).head?.map (·.request) =
      some (Call.mounts (.mount "/staged" "/pod" none options)) ∧ lastAccess? options = some "ro" := by
  have run := Flagged.shows ["noexec"]
  obtain ⟨c, options, told, asked, keeps⟩ := publish_access _ _ _ run _ List.mem_cons_self "/pod" rfl
  refine ⟨run, options, congrArg some asked, (keeps.reading (.inl rfl)).mpr ?_⟩
  cases told
  decide

/-- A request for reading only whose flags end with `rw` shows the volume for writing. -/
theorem read_only_publish_writable : (Flagged.request ["rw"]).readonly = true ∧
    (publish (Flagged.request ["rw"])).RunsTo anyAnswers [] (.ok ()) (Flagged.made ["rw"]) ∧
    ∃ options, (Flagged.made ["rw"]).head?.map (·.request) =
      some (Call.mounts (.mount "/staged" "/pod" none options)) ∧ lastAccess? options = some "rw" :=
  ⟨rfl, Flagged.shows ["rw"], ["bind", "ro", "rw"], rfl, by decide⟩

end ClusterVolumes.NodeVolume
