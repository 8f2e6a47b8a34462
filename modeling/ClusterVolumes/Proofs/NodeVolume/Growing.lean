import ClusterVolumes.NodeVolume.Usage
import ClusterVolumes.Proofs.Courses
import ClusterVolumes.Proofs.NodeVolume.Lifecycle

/-!
# Growing volumes

A file system grows only after its disk was read again and was found to be large enough. `Expands` lists the ways that a
request to grow a volume can take, with the exchanges of each one, and `expand_takes` follows a request through its
guards. What is told of growth then holds in each of these ways (`expand_checked`): the file system is the last that is
asked for, and `measured` are the exchanges that come before it.
-/

namespace ClusterVolumes

/-- Does the call let a file system grow? -/
def Call.grows : Call → Bool
  | .mounts (.grow ..) => true
  | _ => false

namespace History

theorem Without.filter_eq_nil {kind : Call → Bool} {past : History} (h : past.Without kind) :
    past.filter (fun e => kind e.request) = [] :=
  List.filter_eq_nil_iff.mpr fun e mem => by simp [h e mem]

end History

namespace NodeVolume

open Csi Service

section

variable {finder : Device.Finder} {request : NodeExpandVolumeRequest}

/-! ## The ways of a request -/

/-- The exchanges by which the disk behind a volume is found, read again and measured, the latest first. -/
def measured (finder : Device.Finder) (request : NodeExpandVolumeRequest) (device : String) (size : UInt64) : History :=
  [⟨.mounts (.deviceSize device), .ok size⟩, ⟨.writeFile (Device.rescanPath finder.sysfs device) "1", .ok ()⟩,
    ⟨.mounts (.deviceAt request.volumePath), .ok (some device)⟩]

/-- The volume is used as a bare disk, without a file system. -/
def OnBareDisk (request : NodeExpandVolumeRequest) : Prop :=
  ∃ c, request.volumeCapability = some c ∧ c.isBlock = true

/-- The ways that a request to grow a volume can take: how it ends, and after which exchanges. -/
inductive Expands (finder : Device.Finder) (request : NodeExpandVolumeRequest) :
    Except Failure NodeExpandVolumeResponse → History → Prop
  | incomplete {message : String} (missing : request.volumeId = "" ∨ request.volumePath = "") :
      Expands finder request (.error (.invalidArgument message)) []
  | unknown {f : Failure} :
      Expands finder request (.error f) [⟨.mounts (.deviceAt request.volumePath), .error f⟩]
  | unmounted :
      Expands finder request (.error (.resourceNotFound "mount" request.volumePath))
        [⟨.mounts (.deviceAt request.volumePath), .ok none⟩]
  | unread {device reason : String} {e : SystemFailure} :
      Expands finder request (.error (.mountFailed (Device.rescanPath finder.sysfs device) reason))
        [⟨.writeFile (Device.rescanPath finder.sysfs device) "1", .error e⟩,
          ⟨.mounts (.deviceAt request.volumePath), .ok (some device)⟩]
  | unmeasured {device : String} {f : Failure} :
      Expands finder request (.error f)
        [⟨.mounts (.deviceSize device), .error f⟩, ⟨.writeFile (Device.rescanPath finder.sysfs device) "1", .ok ()⟩,
          ⟨.mounts (.deviceAt request.volumePath), .ok (some device)⟩]
  | tooSmall {device message : String} {size : UInt64} (small : size < requiredBytes request) :
      Expands finder request (.error (.internal message)) (measured finder request device size)
  | bare {device : String} {size : UInt64} (enough : requiredBytes request ≤ size) (onBareDisk : OnBareDisk request) :
      Expands finder request (.ok { capacityBytes := size }) (measured finder request device size)
  | grown {device : String} {size : UInt64} (enough : requiredBytes request ≤ size)
      (fileSystem : ¬OnBareDisk request) (x : Except Failure Unit) :
      Expands finder request (x.map fun _ => { capacityBytes := size })
        (⟨.mounts (.grow device request.volumePath), x⟩ :: measured finder request device size)

theorem onBareDisk_iff :
    (request.volumeCapability.map (·.isBlock)).getD false = true ↔ OnBareDisk request := by
  unfold OnBareDisk
  cases request.volumeCapability <;> simp

/-- To check that a text is given asks nobody. -/
theorem required_takes {α : Type} {value what : String} {next : Unit → Service α}
    {Q : Except Failure α → History → Prop}
    (missing : value = "" → Q (.error (.invalidArgument (what ++ " is required"))) []) (rest : (next ()).Takes Q) :
    (Service.ofExcept (required value what) >>= next).Takes Q := by
  refine (takes_ofExcept (Q := fun x made => x = required value what ∧ made = []) ⟨rfl, rfl⟩).bind ?_ ?_
  · rintro ⟨⟩ _ ⟨-, rfl⟩
    simpa using rest
  · rintro f _ ⟨refused, rfl⟩
    unfold required at refused
    split at refused
    · rename_i empty
      cases refused
      exact missing (by simpa using empty)
    · cases refused

/-- To read a disk again is one exchange. -/
theorem rescan_takes (finder : Device.Finder) (device : String) :
    (Device.rescan finder device).Takes fun outcome made => ∃ x : Except SystemFailure Unit,
      made = [⟨.writeFile (Device.rescanPath finder.sysfs device) "1", x⟩] ∧
        outcome = x.mapError fun e =>
          .mountFailed (Device.rescanPath finder.sysfs device) ("rescan failed: " ++ e.message) := by
  unfold Device.rescan
  refine (takes_writeFile (Q := fun x made => ∃ a, x = .ok a ∧
    made = [⟨.writeFile (Device.rescanPath finder.sysfs device) "1", a⟩]) fun a => ⟨a, rfl, rfl⟩).bind ?_ ?_
  · rintro a _ ⟨_, ⟨⟩, rfl⟩
    cases a with
    | error e => exact takes_throw ⟨.error e, rfl, rfl⟩
    | ok _ => exact takes_pure ⟨.ok (), rfl, rfl⟩
  · rintro f _ ⟨a, failed, -⟩
    cases failed

/-- What is done when the disk behind a volume was measured. -/
theorem grow_takes (finder : Device.Finder) {device : String} {size : UInt64} :
    (do
      if size < requiredBytes request then
        throw (.internal ("device " ++ device ++ " reports " ++ toString size.toNat ++ " bytes after rescan, " ++
          toString (requiredBytes request).toNat ++ " requested"))
      unless (request.volumeCapability.map (·.isBlock)).getD false do
        Service.mounts (.grow device request.volumePath)
      pure { capacityBytes := size } : Service NodeExpandVolumeResponse).Takes fun outcome made =>
      Expands finder request outcome (made ++ measured finder request device size) := by
  dsimp only
  by_cases small : size < requiredBytes request
  · rw [if_pos small]
    exact takes_throw (.tooSmall small)
  have enough : requiredBytes request ≤ size := UInt64.not_lt.mp small
  rw [if_neg small]
  split
  · rename_i onBareDisk
    exact takes_pure (.bare enough (onBareDisk_iff.mp onBareDisk))
  · rename_i fileSystem
    have notBare := mt onBareDisk_iff.mpr fileSystem
    refine (takes_mounts (Q := fun x made => made = [⟨.mounts (.grow device request.volumePath), x⟩])
      fun x => rfl).bind ?_ ?_
    · rintro _ _ rfl
      exact takes_pure (.grown enough notBare (.ok ()))
    · rintro f _ rfl
      exact .grown enough notBare (.error f)

/-- A request passes its guards one after the other. -/
theorem expand_takes (finder : Device.Finder) (request : NodeExpandVolumeRequest) :
    (expand finder request).Takes (Expands finder request) := by
  unfold expand
  refine required_takes (fun missing => .incomplete (.inl missing)) ?_
  refine required_takes (fun missing => .incomplete (.inr missing)) ?_
  refine (takes_mounts (Q := fun x made => made = [⟨.mounts (.deviceAt request.volumePath), x⟩]) fun x => rfl).bind ?_ ?_
  case refine_2 =>
    rintro f _ rfl
    exact .unknown
  rintro found _ rfl
  cases found with
  | none => exact takes_throw .unmounted
  | some device =>
    refine (rescan_takes finder device).bind ?_ ?_
    case refine_2 =>
      rintro f _ ⟨x, rfl, failed⟩
      cases x with
      | ok _ => cases failed
      | error e =>
        cases failed
        exact .unread
    rintro _ _ ⟨x, rfl, succeeded⟩
    obtain rfl : x = .ok () := by
      cases x with
      | ok _ => rfl
      | error e => cases succeeded
    refine (takes_mounts (Q := fun x made => made = [⟨.mounts (.deviceSize device), x⟩]) fun x => rfl).bind ?_ ?_
    case refine_2 =>
      rintro f _ rfl
      exact .unmeasured
    rintro size _ rfl
    refine (grow_takes finder).mono fun outcome made way => ?_
    simpa [measured] using way

/-! ## What is told of growth -/

@[simp] theorem length_measured (device : String) (size : UInt64) :
    (measured finder request device size).length = 3 := rfl

theorem measured_without_grows (device : String) (size : UInt64) :
    (measured finder request device size).Without Call.grows := by
  simp [History.Without, measured, Call.grows]

/-- A measuring is told from every other one. -/
theorem measured_suffix {device device' : String} {size size' : UInt64}
    (h : measured finder request device size <:+ measured finder request device' size') :
    device = device' ∧ size = size' := by
  have same := h.eq_of_length (by simp)
  have latest := (List.cons.inj same).1
  cases latest
  exact ⟨rfl, rfl⟩

/-- A request to grow a volume lets a file system grow once at most and only after its disk was measured and found to be
large enough. -/
structure ExpandsChecked (finder : Device.Finder) (request : NodeExpandVolumeRequest)
    (outcome : Except Failure NodeExpandVolumeResponse) (made : History) : Prop where
  way : Expands finder request outcome made
  once : (made.filter fun e => Call.grows e.request).length ≤ 1
  checked : ∀ later e earlier, made = later ++ e :: earlier → Call.grows e.request = true →
    ∃ device size, e.request = .mounts (.grow device request.volumePath) ∧
      earlier = measured finder request device size ∧ requiredBytes request ≤ size
  grows_iff : (∃ e ∈ made, Call.grows e.request = true) ↔
    ∃ device size, measured finder request device size <:+ made ∧ requiredBytes request ≤ size ∧ ¬OnBareDisk request
  told : ∀ response, outcome = .ok response → ∃ device size, measured finder request device size <:+ made ∧
    response.capacityBytes = size ∧ requiredBytes request ≤ size
  tooSmall : ∀ device size, measured finder request device size <:+ made → size < requiredBytes request →
    (∃ message, outcome = .error (.internal message)) ∧ made.Without Call.grows

/-- Fewer exchanges hold no measuring. -/
theorem not_measured_suffix {device : String} {size : UInt64} {made : History} (few : made.length < 3) :
    ¬measured finder request device size <:+ made := by
  intro h
  have long := h.length_le
  rw [length_measured] at long
  omega

/-- Of a history without growth, all that is to be told is how the request ends. -/
theorem ExpandsChecked.of_without {outcome : Except Failure NodeExpandVolumeResponse} {made : History}
    (way : Expands finder request outcome made) (calm : made.Without Call.grows)
    (due : ∀ device size, measured finder request device size <:+ made → requiredBytes request ≤ size →
      OnBareDisk request)
    (told : ∀ response, outcome = .ok response → ∃ device size, measured finder request device size <:+ made ∧
      response.capacityBytes = size ∧ requiredBytes request ≤ size)
    (tooSmall : ∀ device size, measured finder request device size <:+ made → size < requiredBytes request →
      ∃ message, outcome = .error (.internal message)) : ExpandsChecked finder request outcome made where
  way := way
  once := by
    rw [calm.filter_eq_nil]
    exact Nat.zero_le 1
  checked := by
    rintro later e earlier rfl grows
    have quiet := calm e (by simp)
    rw [grows] at quiet
    cases quiet
  grows_iff := by
    constructor
    · rintro ⟨e, mem, grows⟩
      rw [calm e mem] at grows
      cases grows
    · rintro ⟨device, size, suffix, enough, fileSystem⟩
      exact absurd (due device size suffix enough) fileSystem
  told := told
  tooSmall := fun device size suffix small => ⟨tooSmall device size suffix small, calm⟩

/-- A request that fails before the disk was measured tells nothing of growth. -/
theorem ExpandsChecked.of_unmeasured {f : Failure} {made : History} (way : Expands finder request (.error f) made)
    (calm : made.Without Call.grows) (none : ∀ device size, ¬measured finder request device size <:+ made) :
    ExpandsChecked finder request (.error f) made :=
  .of_without way calm (fun device size suffix => absurd suffix (none device size)) nofun
    fun device size suffix => absurd suffix (none device size)

/-- In each of its ways a request keeps to what is told of growth. -/
theorem Expands.checked {outcome : Except Failure NodeExpandVolumeResponse} {made : History}
    (way : Expands finder request outcome made) : ExpandsChecked finder request outcome made := by
  have way' := way
  cases way with
  | incomplete missing =>
    exact .of_unmeasured way' History.without_nil fun _ _ => not_measured_suffix (by simp)
  | unknown =>
    exact .of_unmeasured way' (by simp [History.Without, Call.grows]) fun _ _ => not_measured_suffix (by simp)
  | unmounted =>
    exact .of_unmeasured way' (by simp [History.Without, Call.grows]) fun _ _ => not_measured_suffix (by simp)
  | unread =>
    exact .of_unmeasured way' (by simp [History.Without, Call.grows]) fun _ _ => not_measured_suffix (by simp)
  | unmeasured =>
    refine .of_unmeasured way' (by simp [History.Without, Call.grows]) fun device size suffix => ?_
    have latest := (List.cons.inj (suffix.eq_of_length (by simp))).1
    cases latest
  | tooSmall small =>
    refine .of_without way' (measured_without_grows _ _) ?_ nofun fun _ _ _ _ => ⟨_, rfl⟩
    intro device size suffix enough
    obtain ⟨rfl, rfl⟩ := measured_suffix suffix
    exact absurd small (UInt64.not_lt.mpr enough)
  | @bare device size enough onBareDisk =>
    refine .of_without way' (measured_without_grows _ _) (fun _ _ _ _ => onBareDisk) ?_ ?_
    · rintro response ⟨⟩
      exact ⟨device, size, List.suffix_rfl, rfl, enough⟩
    · intro device' size' suffix small
      obtain ⟨rfl, rfl⟩ := measured_suffix suffix
      exact absurd small (UInt64.not_lt.mpr enough)
  | @grown device size enough fileSystem x =>
    have calm : (measured finder request device size).Without Call.grows := measured_without_grows device size
    have only {device' : String} {size' : UInt64} (suffix : measured finder request device' size' <:+
        ⟨.mounts (.grow device request.volumePath), x⟩ :: measured finder request device size) :
        device' = device ∧ size' = size := by
      rcases List.suffix_cons_iff.mp suffix with same | suffix
      · have lengths := congrArg List.length same
        simp at lengths
      · exact measured_suffix suffix
    refine ⟨way', ?_, ?_, ?_, ?_, ?_⟩
    · rw [List.filter_cons_of_pos rfl, calm.filter_eq_nil]
      exact Nat.le_refl 1
    · intro later e earlier split grows
      have nothing : History.Without Call.grows [] := History.without_nil
      obtain ⟨rfl, rfl⟩ := Program.eq_of_alone nothing calm split grows
      exact ⟨device, size, rfl, rfl, enough⟩
    · refine ⟨fun _ => ⟨device, size, List.suffix_cons _ _, enough, fileSystem⟩, fun _ => ?_⟩
      exact ⟨_, List.mem_cons_self, rfl⟩
    · intro response succeeded
      cases x with
      | error f => cases succeeded
      | ok _ =>
        cases succeeded
        exact ⟨device, size, List.suffix_cons _ _, rfl, enough⟩
    · intro device' size' suffix small
      obtain ⟨rfl, rfl⟩ := only suffix
      exact absurd small (UInt64.not_lt.mpr enough)

/-- **Growing a volume.** Whatever is answered, a request to grow a volume lets a file system grow once at most, and that
is the file system which is mounted at its path, on the device that is mounted there. Before that this device was read
again without failure, and the size that it had then was at least what is required. If that is so the file system grows,
unless the volume is used as a bare disk. The size that was measured is the one that is told when the request succeeds;
if it is less than what is required, the request fails as an internal one and nothing grows. -/
theorem expand_checked (finder : Device.Finder) (request : NodeExpandVolumeRequest)
    (outcome : Except Failure NodeExpandVolumeResponse) (made : History)
    (run : (expand finder request).RunsTo anyAnswers [] outcome made) : ExpandsChecked finder request outcome made :=
  (expand_takes finder request outcome made run).checked

end

/-! ### A disk that was enlarged -/

namespace Enlarged

/-- A volume is to have at least two GiB. -/
def request : NodeExpandVolumeRequest where
  volumeId := "r1/z1/data/vm-9999-pvc-1"
  volumePath := "/pod"
  capacityRange := some { requiredBytes := 2147483648 }

/-- The disk is found, read again and seen to have three GiB, and its file system grows. -/
def made : History :=
  ⟨.mounts (.grow "/dev/sdb" "/pod"), .ok ()⟩ :: measured ⟨"/sys", 0, 1⟩ request "/dev/sdb" 3221225472

theorem runs : (expand ⟨"/sys", 0, 1⟩ request).RunsTo anyAnswers [] (.ok { capacityBytes := 3221225472 }) made := by
  refine .ask (.ok (some "/dev/sdb")) rfl (.ask (.ok ()) rfl (.ask (.ok 3221225472) rfl ?_))
  exact .ask (.ok ()) rfl (.done _ _)

end Enlarged

/-- The file system grows when the disk was measured, and no other does. -/
theorem expand_checked_enlarged :
    (expand ⟨"/sys", 0, 1⟩ Enlarged.request).RunsTo anyAnswers [] (.ok { capacityBytes := 3221225472 }) Enlarged.made ∧
      ExpandsChecked ⟨"/sys", 0, 1⟩ Enlarged.request (.ok { capacityBytes := 3221225472 }) Enlarged.made :=
  ⟨Enlarged.runs, expand_checked _ _ _ _ Enlarged.runs⟩

end NodeVolume

end ClusterVolumes
