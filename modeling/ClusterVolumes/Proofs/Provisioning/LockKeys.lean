import ClusterVolumes.Proofs.Provisioning.Addressing
import ClusterVolumes.Proofs.Volume.OlderForm

/-!
# The locks under which disks are made and deleted

A disk is made under the lock of the id that is handed out for it, and deleted under the lock of the id that is given,
with its storage put in. So the two are one lock only if the given id has a zone exactly if the storage is one that each
node has for itself.

- `History.held` and `History.underLocks` tell from the exchanges which locks were held at a request;
- `createVolume_locks` and `deleteVolume_locks` follow the two services along every run;
- `lock_keys_agree_iff` compares the locks under which one disk is made and deleted.
-/

namespace ClusterVolumes

open Csi Hypervisor Service

namespace History

/-- The locks that are held after some exchanges, the latest first. -/
def held : History → List String
  | [] => []
  | ⟨.acquire key, _⟩ :: past => key :: held past
  | ⟨.release key, _⟩ :: past => (held past).erase key
  | _ :: past => held past

/-- The requests to clusters, the latest first, with the locks that were held at each and the region. -/
def underLocks : History → List (List String × String × Hypervisor.Request)
  | [] => []
  | ⟨.cluster region r, _⟩ :: past => (held past, region, r) :: underLocks past
  | _ :: past => underLocks past

/-- A node was asked for its status of a storage and said that the storage is shared. -/
def toldShared (past : History) (region node storage : String) : Bool :=
  past.any fun
    | ⟨.cluster r (.storageStatus n st), .ok status⟩ => r = region && n = node && st = storage && status.shared
    | _ => false

variable {past : History} {region key : String} {r : Hypervisor.Request}

@[simp] theorem held_acquire (x : Unit) : held (⟨.acquire key, x⟩ :: past) = key :: past.held := rfl

@[simp] theorem held_release (x : Unit) : held (⟨.release key, x⟩ :: past) = past.held.erase key := rfl

@[simp] theorem held_cluster (x : Except Failure r.Answer) :
    held (Exchange.cluster region r x :: past) = past.held := rfl

@[simp] theorem underLocks_acquire (x : Unit) : underLocks (⟨.acquire key, x⟩ :: past) = past.underLocks := rfl

@[simp] theorem underLocks_release (x : Unit) : underLocks (⟨.release key, x⟩ :: past) = past.underLocks := rfl

@[simp] theorem underLocks_cluster (x : Except Failure r.Answer) :
    underLocks (Exchange.cluster region r x :: past) = (past.held, region, r) :: past.underLocks := rfl

@[simp] theorem toldShared_acquire (x : Unit) : toldShared (⟨.acquire key, x⟩ :: past) = past.toldShared := rfl

@[simp] theorem toldShared_release (x : Unit) : toldShared (⟨.release key, x⟩ :: past) = past.toldShared := rfl

theorem toldShared_storageStatus (node storage : String) (status : StorageStatus) :
    toldShared (Exchange.cluster region (.storageStatus node storage) (.ok status) :: past) region node storage =
      (status.shared || past.toldShared region node storage) := by
  simp [toldShared]

end History

namespace Provisioning

/-! ## Making -/

/-- Which zone the id of a volume has, by what a node told of the storage. -/
def zoneFor (shared : Bool) (node : String) : String :=
  if shared then "" else node

/-- The handle of a volume that is made on a node, by what the node told of the storage. -/
def handleFor (plan : Plan) (name : String) (shared : Bool) (node : String) : VolumeHandle :=
  handleOf plan name (zoneFor shared node)

/-- A disk is made for a volume under the lock of its id, on a node that is named unless the storage is shared. -/
structure MakesUnder (plan : Plan) (name : String) (shared : Bool) (keys : List String) (region node storage : String)
    (disk : DiskRequest) : Prop where
  region : region = plan.region
  storage : storage = plan.options.storage
  disk : disk = diskFor plan (handleFor plan name shared node)
  keys : keys = [(handleFor plan name shared node).text]
  named : shared = false → node ≠ ""

/-- All disks were made so. -/
def MadeUnder (plan : Plan) (name : String) (past : History) : Prop :=
  ∀ keys region node storage disk, (keys, region, .createDisk node storage disk) ∈ past.underLocks →
    MakesUnder plan name (past.toldShared region node storage) keys region node storage disk

/-- Every disk was made under one lock. -/
def MadeUnderKey (key : String) (past : History) : Prop :=
  ∀ keys region node storage disk, (keys, region, .createDisk node storage disk) ∈ past.underLocks → keys = [key]

/-- Before a volume is made: no disk was made, no lock is held, and nothing was told of storages. -/
structure Unmade (past : History) : Prop where
  created : ∀ keys region node storage disk, (keys, region, .createDisk node storage disk) ∉ past.underLocks
  free : past.held = []
  untold : ∀ region node storage, past.toldShared region node storage = false

theorem madeUnder_of_none {plan : Plan} {name : String} {past : History}
    (h : ∀ keys region node storage disk, (keys, region, .createDisk node storage disk) ∉ past.underLocks) :
    MadeUnder plan name past :=
  fun _ _ _ _ _ mem => absurd mem (h _ _ _ _ _)

theorem zoneOf_eq_ok {plan : Plan} {node zone : String} {status : StorageStatus}
    (h : zoneOf plan node status = .ok zone) :
    zone = zoneFor status.shared node ∧ (status.shared = false → plan.placement.landsOn.isEmpty = false) := by
  unfold zoneOf at h
  split at h
  · rename_i shared
    cases h
    simp [zoneFor, shared]
  · rename_i alone
    split at h
    · cases h
    · rename_i named
      cases h
      simp [zoneFor, alone, named]

/-- What came of ensuring a disk: the locks and what was told are as before, and no other disk was made. -/
structure Kept (plan : Plan) (node : String) (v : VolumeHandle) (past t : History) : Prop where
  locks : t.held = past.held
  told : t.toldShared = past.toldShared
  made : ∀ keys region node' storage disk, (keys, region, .createDisk node' storage disk) ∈ t.underLocks →
    (keys, region, .createDisk node' storage disk) ∈ past.underLocks ∨
      (keys, region, Hypervisor.Request.createDisk node' storage disk) =
        (past.held, plan.region, .createDisk node plan.options.storage (diskFor plan v))

theorem ensureDisk_keeps (plan : Plan) (node : String) (v : VolumeHandle) (past : History) :
    Ensures anyAnswers (fun _ _ => True) (ensureDisk plan node v) (fun _ t => Kept plan node v past t)
      (fun _ t => Kept plan node v past t) past := by
  have start : Kept plan node v past past := ⟨rfl, rfl, fun _ _ _ _ _ mem => .inl mem⟩
  have looked (x : Except Failure (List StorageVolume)) : Kept plan node v past
      (Exchange.cluster plan.region (.storageContent node plan.options.storage) x :: past) :=
    ⟨rfl, rfl, fun keys region node' storage disk mem => .inl (by simpa using mem)⟩
  have made (x : Except Failure (List StorageVolume)) (y : Except Failure String) : Kept plan node v past
      (Exchange.cluster plan.region (.createDisk node plan.options.storage (diskFor plan v)) y ::
        Exchange.cluster plan.region (.storageContent node plan.options.storage) x :: past) := by
    refine ⟨rfl, rfl, fun keys region node' storage disk mem => ?_⟩
    rcases List.mem_cons.mp mem with own | mem
    · exact .inr own
    · exact .inl (by simpa using mem)
  unfold ensureDisk
  refine ensures_bind.mpr (ensures_rewording.mpr (ask_cluster trivial (fun content => ?_) fun f => looked _))
  split
  · split
    · exact looked _
    · exact looked _
  · exact ensures_bind.mpr (ensures_rewording.mpr (ask_cluster trivial (fun _ => made _ _) fun _ => made _ _))

/-- After its disk was ensured under the lock of its id, a volume was made as it should be. -/
theorem Kept.madeUnder {plan : Plan} {name node : String} {past t : History} {status : StorageStatus} {v : VolumeHandle}
    {x y : Unit} (hv : v = handleFor plan name status.shared node) (h : Unmade past)
    (named : status.shared = false → node ≠ "") (kept : Kept plan node v (⟨.acquire v.text, x⟩ ::
      Exchange.cluster plan.region (.storageStatus node plan.options.storage) (.ok status) :: past) t) :
    MadeUnder plan name (⟨.release v.text, y⟩ :: t) ∧ MadeUnderKey v.text (⟨.release v.text, y⟩ :: t) := by
  have told : t.toldShared plan.region node plan.options.storage = status.shared := by
    rw [kept.told, History.toldShared_acquire, History.toldShared_storageStatus, h.untold, Bool.or_false]
  -- the one disk is made under the lock that was taken just before
  have only (keys region node' storage disk) (mem : (keys, region, .createDisk node' storage disk) ∈ t.underLocks) :
      keys = [v.text] ∧ region = plan.region ∧ node' = node ∧ storage = plan.options.storage ∧
        disk = diskFor plan v := by
    rcases kept.made keys region node' storage disk mem with before | own
    · exact absurd (by simpa using before) (h.created keys region node' storage disk)
    · simpa [h.free] using own
  refine ⟨fun keys region node' storage disk mem => ?_, fun keys region node' storage disk mem => ?_⟩
  · obtain ⟨rfl, rfl, rfl, rfl, rfl⟩ := only keys region node' storage disk mem
    rw [History.toldShared_release, told]
    exact ⟨rfl, rfl, hv ▸ rfl, hv ▸ rfl, named⟩
  · exact (only keys region node' storage disk mem).1

theorem createOn_locks {plan : Plan} (name : String) {node : String} {past : History} (h : Unmade past)
    (hn : plan.placement.landsOn.isEmpty = false → node = plan.placement.landsOn) :
    Ensures anyAnswers (fun _ _ => True) (createOn plan name node)
      (fun response t => MadeUnder plan name t ∧ MadeUnderKey response.volume.volumeId t)
      (fun _ t => MadeUnder plan name t) past := by
  unfold createOn
  refine ensures_bind.mpr (ensures_rewording.mpr (ask_cluster trivial (fun status => ?_) fun f => ?_))
  · refine ensures_bind.mpr (ensures_ofExcept.mpr ?_)
    cases hzone : zoneOf plan node status with
    | error f => exact madeUnder_of_none (by simpa using h.created)
    | ok zone =>
      obtain ⟨rfl, landed⟩ := zoneOf_eq_ok hzone
      have named : status.shared = false → node ≠ "" := fun alone => by
        rw [hn (landed alone)]
        simpa using landed alone
      refine ensures_bind.mpr (Ensures.holding trivial ?_)
      rintro x _ rfl
      refine (ensureDisk_keeps plan node _ _).post (fun _ t kept => ⟨trivial, ?_⟩) fun f t kept => ⟨trivial, ?_⟩
      · rintro y _ rfl
        exact kept.madeUnder rfl h named
      · rintro y _ rfl
        exact (kept.madeUnder rfl h named).1
  · exact madeUnder_of_none (by simpa using h.created)

/-- **The locks of a creation.** Whatever is answered, a disk is made under the lock of the id that is handed out. -/
theorem createVolume_locks {κ : Type} (fleet : Fleet κ) (request : CreateVolumeRequest) :
    Ensures anyAnswers (fun _ _ => True) (createVolume fleet request)
      (fun response t => ∃ plan, planOf fleet request = .ok plan ∧ MadeUnder plan request.name t ∧
        MadeUnderKey response.volume.volumeId t)
      (fun _ t => t.underLocks = [] ∨ ∃ plan, planOf fleet request = .ok plan ∧ MadeUnder plan request.name t) [] := by
  unfold createVolume
  refine ensures_bind.mpr (ensures_ofExcept.mpr ?_)
  cases hplan : planOf fleet request with
  | error f => exact .inl rfl
  | ok plan =>
    simp only [onOutcome]
    split
    · rename_i hempty
      unfold Fleet.firstOnlineNode
      refine ensures_bind.mpr (ensures_bind.mpr (ask_cluster trivial (fun members => ?_) fun f => ?_))
      · split
        · rename_i m _
          have unmade : Unmade [Exchange.cluster plan.region .members (.ok members)] :=
            ⟨by simp [History.underLocks], rfl, fun _ _ _ => rfl⟩
          refine (createOn_locks request.name unmade fun h => absurd hempty (by simp [h])).post
            (fun _ _ h => ⟨plan, rfl, h⟩) fun _ _ h => .inr ⟨plan, rfl, h⟩
        · exact .inr ⟨plan, rfl, madeUnder_of_none (by simp [History.underLocks])⟩
      · exact .inr ⟨plan, rfl, madeUnder_of_none (by simp [History.underLocks])⟩
    · have unmade : Unmade [] := ⟨by simp [History.underLocks], rfl, fun _ _ _ => rfl⟩
      exact (createOn_locks request.name unmade fun _ => rfl).post (fun _ _ h => ⟨plan, rfl, h⟩)
        fun _ _ h => .inr ⟨plan, rfl, h⟩

theorem createVolume_madeUnder {κ : Type} {fleet : Fleet κ} {request : CreateVolumeRequest}
    {outcome : Except Failure CreateVolumeResponse} {past : History} {keys : List String} {region node storage : String}
    {disk : DiskRequest} (run : (createVolume fleet request).RunsTo anyAnswers [] outcome past)
    (mem : (keys, region, .createDisk node storage disk) ∈ past.underLocks) :
    ∃ plan, planOf fleet request = .ok plan ∧
      MakesUnder plan request.name (past.toldShared region node storage) keys region node storage disk ∧
      ∀ response, outcome = .ok response → keys = [response.volume.volumeId] := by
  cases outcome with
  | error f =>
    rcases (createVolume_locks fleet request).runsTo_error run with none | ⟨plan, planned, made⟩
    · rw [none] at mem
      cases mem
    · exact ⟨plan, planned, made keys region node storage disk mem, nofun⟩
  | ok response =>
    obtain ⟨plan, planned, made, under⟩ := (createVolume_locks fleet request).runsTo_ok run
    refine ⟨plan, planned, made keys region node storage disk mem, ?_⟩
    rintro _ ⟨⟩
    exact under keys region node storage disk mem

/-! ## Deleting -/

/-- A disk is deleted under the lock of the handle with the storage put in, on the node of the handle if it has one. -/
structure DeletesUnder (v : VolumeHandle) (keys : List String) (region node storage volid : String) : Prop where
  region : region = v.region
  volid : volid = { v with storage := storage }.volid
  keys : keys = [{ v with storage := storage }.text]
  node : v.zone ≠ "" → node = v.zone

/-- All disks were deleted so, and no lock is held. -/
structure DeletedUnder (v : VolumeHandle) (past : History) : Prop where
  free : past.held = []
  deleted : ∀ keys region node storage volid, (keys, region, .deleteDisk node storage volid) ∈ past.underLocks →
    DeletesUnder v keys region node storage volid

section

variable {v : VolumeHandle} {node id : String} {past : History}

/-- What came of deleting from one storage: the locks are as before, and no other disk was deleted. -/
structure KeptBut (v : VolumeHandle) (node : String) (past t : History) : Prop where
  locks : t.held = past.held
  deleted : ∀ keys region node' storage volid, (keys, region, .deleteDisk node' storage volid) ∈ t.underLocks →
    (keys, region, .deleteDisk node' storage volid) ∈ past.underLocks ∨
      (keys, region, Hypervisor.Request.deleteDisk node' storage volid) =
        (past.held, v.region, .deleteDisk node v.storage v.volid)

theorem deleteFrom_keeps (v : VolumeHandle) (id node : String) (past : History) :
    Ensures anyAnswers (fun _ _ => True) (deleteFrom id node v) (fun _ t => KeptBut v node past t)
      (fun _ t => KeptBut v node past t) past := by
  have looked (x : Except Failure (List StorageVolume)) :
      KeptBut v node past (Exchange.cluster v.region (.storageContent node v.storage) x :: past) :=
    ⟨rfl, fun _ _ _ _ _ mem => .inl (by simpa using mem)⟩
  have deleted (x : Except Failure (List StorageVolume)) (y : Except Failure Unit) :
      KeptBut v node past (Exchange.cluster v.region (.deleteDisk node v.storage v.volid) y ::
        Exchange.cluster v.region (.storageContent node v.storage) x :: past) := by
    refine ⟨rfl, fun keys region node' storage volid mem => ?_⟩
    rcases List.mem_cons.mp mem with own | mem
    · exact .inr own
    · exact .inl (by simpa using mem)
  unfold deleteFrom
  refine ensures_bind.mpr (ensures_attempt.mpr (ask_cluster trivial (fun content => ?_) fun f => ?_))
  · dsimp only
    split
    · exact ensures_bind.mpr (ensures_rewording.mpr (ask_cluster trivial (fun _ => deleted _ _) fun _ => deleted _ _))
    · exact looked _
  · dsimp only
    split
    · exact looked _
    · exact looked _

/-- A disk that was deleted from one storage was deleted under the lock that was taken for it. -/
theorem KeptBut.deletedUnder {storage : String} {t : History} {x y : Unit} (hn : v.zone ≠ "" → node = v.zone)
    (h : DeletedUnder v past) (kept : KeptBut { v with storage := storage } node
      (⟨.acquire { v with storage := storage }.text, x⟩ :: past) t) :
    DeletedUnder v (⟨.release { v with storage := storage }.text, y⟩ :: t) := by
  refine ⟨?_, fun keys region node' storage' volid mem => ?_⟩
  · simp [kept.locks, h.free]
  · rcases kept.deleted keys region node' storage' volid mem with before | own
    · exact h.deleted keys region node' storage' volid before
    · simp only [History.held_acquire, h.free, Prod.mk.injEq, Request.deleteDisk.injEq] at own
      obtain ⟨rfl, rfl, rfl, rfl, rfl⟩ := own
      exact ⟨rfl, rfl, rfl, hn⟩

theorem deleteFromFirst_locks (hn : v.zone ≠ "" → node = v.zone) (storages : List String)
    (h : DeletedUnder v past) :
    Ensures anyAnswers (fun _ _ => True) (deleteFromFirst id node v storages) (fun _ t => DeletedUnder v t)
      (fun _ t => DeletedUnder v t) past := by
  induction storages generalizing past with
  | nil => exact h
  | cons storage rest ih =>
    unfold deleteFromFirst
    refine ensures_bind.mpr (Ensures.holding trivial ?_)
    rintro x _ rfl
    refine (deleteFrom_keeps _ id node _).post (fun deleted t kept => ⟨trivial, ?_⟩) fun f t kept => ⟨trivial, ?_⟩
    · rintro y _ rfl
      have under := kept.deletedUnder (y := y) hn h
      cases deleted with
      | true => exact under
      | false => exact ih under
    · rintro y _ rfl
      exact kept.deletedUnder hn h

/-- What a deletion asks before it takes a lock. -/
theorem deletedUnder_of_none (free : past.held = [])
    (none : ∀ keys region node storage volid, (keys, region, .deleteDisk node storage volid) ∉ past.underLocks) :
    DeletedUnder v past :=
  ⟨free, fun _ _ _ _ _ mem => absurd mem (none _ _ _ _ _)⟩

theorem deleteWhereListed_locks (hn : v.zone ≠ "" → node = v.zone) (h : DeletedUnder v past) :
    Ensures anyAnswers (fun _ _ => True) (storagesOf id node v >>= fun l => deleteFromFirst id node v l)
      (fun _ t => DeletedUnder v t) (fun _ t => DeletedUnder v t) past := by
  have looked (x : Except Failure (List ClusterResource)) :
      DeletedUnder v (Exchange.cluster v.region (.resources .storage) x :: past) :=
    ⟨h.free, fun keys region node storage volid mem => h.deleted keys region node storage volid (by simpa using mem)⟩
  unfold storagesOf
  refine ensures_bind.mpr ?_
  split
  · refine ensures_bind.mpr (ensures_rewording.mpr (ask_cluster trivial (fun resources => ?_) fun f => looked _))
    exact deleteFromFirst_locks hn _ (looked _)
  · exact deleteFromFirst_locks hn _ h

end

/-- **The locks of a deletion.** Whatever is answered, a disk is deleted under the lock of the handle that was given,
with the storage put in. -/
theorem deleteVolume_locks {κ : Type} (fleet : Fleet κ) (request : DeleteVolumeRequest) :
    Ensures anyAnswers (fun _ _ => True) (deleteVolume fleet request)
      (fun _ t => ∃ v, VolumeHandle.parseLegacy request.volumeId = .ok v ∧ DeletedUnder v t)
      (fun _ t => t.underLocks = [] ∨ ∃ v, VolumeHandle.parseLegacy request.volumeId = .ok v ∧ DeletedUnder v t)
      [] := by
  unfold deleteVolume
  simp only
  split
  · exact .inl rfl
  refine ensures_bind.mpr (ensures_ofExcept.mpr ?_)
  cases hv : VolumeHandle.parseLegacy request.volumeId with
  | error f => exact .inl rfl
  | ok v =>
    refine ensures_bind.mpr (ensures_ofExcept.mpr ?_)
    cases fleet.get v.region with
    | error f => exact .inl rfl
    | ok access =>
      simp only [onOutcome]
      split
      · rename_i hz
        have none (x : Except Failure (List ClusterMember)) : DeletedUnder v [Exchange.cluster v.region .members x] :=
          deletedUnder_of_none rfl (by simp [History.underLocks])
        have hn (node : String) : v.zone ≠ "" → node = v.zone := fun h => absurd (String.isEmpty_iff.mp hz) h
        unfold Fleet.firstOnlineNode
        refine ensures_bind.mpr (ensures_rewording.mpr (ensures_bind.mpr ?_))
        refine ask_cluster trivial (fun members => ?_) fun f => .inr ⟨v, rfl, none _⟩
        split
        · exact (deleteWhereListed_locks (hn _) (none _)).post (fun _ _ h => ⟨v, rfl, h⟩) fun _ _ h => .inr ⟨v, rfl, h⟩
        · exact .inr ⟨v, rfl, none _⟩
      · have none : DeletedUnder v [] := deletedUnder_of_none rfl (by simp [History.underLocks])
        exact (deleteWhereListed_locks (fun _ => rfl) none).post (fun _ _ h => ⟨v, rfl, h⟩)
          fun _ _ h => .inr ⟨v, rfl, h⟩

theorem deleteVolume_deletedUnder {κ : Type} {fleet : Fleet κ} {request : DeleteVolumeRequest}
    {outcome : Except Failure Unit} {past : History} {keys : List String} {region node storage volid : String}
    (run : (deleteVolume fleet request).RunsTo anyAnswers [] outcome past)
    (mem : (keys, region, .deleteDisk node storage volid) ∈ past.underLocks) :
    ∃ v, VolumeHandle.parseLegacy request.volumeId = .ok v ∧ DeletesUnder v keys region node storage volid := by
  cases outcome with
  | error f =>
    rcases (deleteVolume_locks fleet request).runsTo_error run with none | ⟨v, read, h⟩
    · rw [none] at mem
      cases mem
    · exact ⟨v, read, h.deleted keys region node storage volid mem⟩
  | ok =>
    obtain ⟨v, read, h⟩ := (deleteVolume_locks fleet request).runsTo_ok run
    exact ⟨v, read, h.deleted keys region node storage volid mem⟩

end Provisioning

/-! ## One disk under two ids -/

namespace VolumeHandle

/-- The zone that is read from an id holds no slash, and the disk is a file or a file in a numeric folder. -/
theorem plain_of_parseLegacy {id : String} {v : VolumeHandle} (h : parseLegacy id = .ok v) :
    '/' ∉ v.zone.toList ∧ isDisk v.disk.toList = true := by
  rcases parseLegacy_eq_ok_iff.mp h with read | older
  · have parts := (parse_eq_ok_iff.mp read).2
    exact ⟨parts.zone, parts.isDisk⟩
  · obtain ⟨-, zone, disk⟩ := older.free
    exact ⟨zone, by rw [isDisk, Text.cutFirst_eq_none_iff.mpr disk]⟩

/-- Two handles of one disk have one text exactly if they have one zone. -/
theorem text_eq_iff_zone_eq {region storage disk zone zone' : String} :
    text ⟨region, zone, storage, disk⟩ = text ⟨region, zone', storage, disk⟩ ↔ zone = zone' := by
  constructor
  · intro same
    have same := congrArg String.toList same
    rw [toList_text, toList_text] at same
    have rest := (List.cons.inj (List.append_cancel_left same)).2
    exact String.toList_injective (List.append_cancel_right rest)
  · rintro rfl
    rfl

/-- A disk with a slash more does not have the text of another one whose zone holds none. -/
theorem text_ne_of_slash {region storage disk disk' zone zone' : String} (plain : '/' ∉ zone'.toList)
    (more : disk'.toList.count '/' < disk.toList.count '/') :
    text ⟨region, zone, storage, disk⟩ ≠ text ⟨region, zone', storage, disk'⟩ := by
  intro same
  have slashes := congrArg (fun s : String => s.toList.count '/') same
  simp only [toList_text, List.count_append, List.count_cons_self, List.count_eq_zero.mpr plain] at slashes
  omega

end VolumeHandle

namespace Provisioning

section

variable {plan : Plan} {name node node' volid region storage : String} {shared : Bool} {keys keys' : List String}
  {disk : DiskRequest} {v : VolumeHandle}

theorem MakesUnder.text (made : MakesUnder plan name shared keys region node storage disk) :
    keys = [VolumeHandle.text ⟨region, zoneFor shared node, storage, (handleFor plan name shared node).disk⟩] := by
  rw [made.keys, made.region, made.storage]
  rfl

theorem DeletesUnder.text (gone : DeletesUnder v keys' region node' storage volid) :
    keys' = [VolumeHandle.text ⟨region, v.zone, storage, v.disk⟩] := by
  rw [gone.keys, gone.region]

/-- Where one disk is made and deleted, the two zones are the same exactly if the given one is empty for shared storages
only. -/
theorem zoneFor_eq_iff (named : shared = false → node ≠ "") (there : v.zone ≠ "" → node' = v.zone)
    (place : shared = true ∨ node' = node) : zoneFor shared node = v.zone ↔ (v.zone = "" ↔ shared = true) := by
  cases shared with
  | true => simp [zoneFor, eq_comm (a := "")]
  | false =>
    obtain rfl := place.resolve_left Bool.false_ne_true
    by_cases anywhere : v.zone = ""
    · simp [zoneFor, anywhere, named rfl]
    · simp [zoneFor, anywhere, there anywhere]

/-- What is made and deleted under one name is one disk, if the name of the volume holds no slash. -/
theorem disk_eq_of_volid (hp : plan.Sound) (free : '/' ∉ name.toList)
    (made : MakesUnder plan name shared keys region node storage disk)
    (gone : DeletesUnder v keys' region node' storage volid)
    (same : Site.ClusterState.newVolid storage disk = volid) : (handleFor plan name shared node).disk = v.disk := by
  obtain rfl := made.storage
  have named : (handleFor plan name shared node).volid = volid := by
    rw [← same, made.disk]
    exact (newVolid_diskFor hp free).symm
  have one := named.trans gone.volid
  simpa [VolumeHandle.volid, handleFor, handleOf, VolumeHandle.withFormat] using one

/-- A volume whose name holds a slash is not made under the lock under which its disk is deleted. -/
theorem keys_ne_of_slash (hp : plan.Sound) (slash : '/' ∈ name.toList)
    (plain : '/' ∉ v.zone.toList ∧ VolumeHandle.isDisk v.disk.toList = true)
    (made : MakesUnder plan name shared keys region node storage disk)
    (gone : DeletesUnder v keys' region node' storage volid)
    (same : Site.ClusterState.newVolid storage disk = volid) : keys ≠ keys' := by
  obtain ⟨plainZone, isDisk⟩ := plain
  have named : Site.ClusterState.newVolid storage disk = storage ++ ":" ++ v.disk := same.trans gone.volid
  rw [made.disk, made.storage] at named
  rw [made.text, gone.text, Ne, List.singleton_inj]
  have slashed : '/' ∈ (DiskName.provisioned name).toList := by simp [VolumeHandle.toList_provisioned, slash]
  cases format : plan.options.format with
  | none =>
    -- the disk is kept under what stands behind the first slash
    obtain ⟨volid, disk⟩ := newVolid_diskFor_of_none name (zoneFor shared node) format
    have file : (handleFor plan name shared node).filename = v.disk := by
      simpa [handleFor] using volid.symm.trans named
    have cuts : Text.cutFirst '/' (DiskName.provisioned name).toList ≠ none :=
      fun none => Text.cutFirst_eq_none_iff.mp none slashed
    obtain ⟨⟨folder, rest⟩, cut⟩ := Option.ne_none_iff_exists'.mp cuts
    obtain ⟨parts, free⟩ := Text.cutFirst_eq_some_iff.mp cut
    have whole : (handleFor plan name shared node).disk.toList = folder ++ '/' :: rest := by
      rw [handleFor, disk, parts]
    refine VolumeHandle.text_ne_of_slash plainZone ?_
    rw [← file, VolumeHandle.toList_filename whole free, whole, List.count_append, List.count_cons_self]
    omega
  | some f =>
    -- the disk is kept in the folder of its machine, and no id names such a disk
    have volid := newVolid_diskFor_of_format name (zoneFor shared node) hp format
    have disk : (handleFor plan name shared node).disk = v.disk := by
      simpa [volid_handleOf, handleFor] using volid.symm.trans named
    have plainFormat := (formats_plain f (hp.formatted f format)).2
    rw [← disk, handleFor, handleOf, format] at isDisk
    exact absurd slash ((VolumeHandle.isDisk_formattedDisk name plainFormat).mp isDisk)

end

/-- **The locks under which one disk is made and deleted.** Whatever the collaborators answer, a disk is made under the
lock of the id that is handed out, which names the node unless the storage is shared, and deleted under the lock of the
id that is given, with the storage put in. For one disk these are one lock exactly if the given id has no zone for a
storage that is shared and only for such a one, and the name of the volume holds no slash. -/
theorem lock_keys_agree_iff {κ κ' : Type} (fleet : Fleet κ) (fleet' : Fleet κ') (creation : CreateVolumeRequest)
    (deletion : DeleteVolumeRequest) {created : Except Failure CreateVolumeResponse} {deleted : Except Failure Unit}
    {past past' : History} (create : (createVolume fleet creation).RunsTo anyAnswers [] created past)
    (delete : (deleteVolume fleet' deletion).RunsTo anyAnswers [] deleted past')
    {keys keys' : List String} {region node node' storage volid : String} {disk : DiskRequest}
    (makes : (keys, region, .createDisk node storage disk) ∈ past.underLocks)
    (deletes : (keys', region, .deleteDisk node' storage volid) ∈ past'.underLocks)
    (same : Site.ClusterState.newVolid storage disk = volid)
    (place : past.toldShared region node storage = true ∨ node' = node) :
    ∃ plan v, planOf fleet creation = .ok plan ∧ VolumeHandle.parseLegacy deletion.volumeId = .ok v ∧
      keys = [(handleOf plan creation.name (if past.toldShared region node storage then "" else node)).text] ∧
      (∀ response, created = .ok response → keys = [response.volume.volumeId]) ∧
      keys' = [{ v with storage := storage }.text] ∧
      (keys = keys' ↔
        (v.zone = "" ↔ past.toldShared region node storage = true) ∧ '/' ∉ creation.name.toList) := by
  obtain ⟨plan, planned, made, handedOut⟩ := createVolume_madeUnder create makes
  obtain ⟨v, read, gone⟩ := deleteVolume_deletedUnder delete deletes
  refine ⟨plan, v, planned, read, made.keys, handedOut, gone.keys, ?_⟩
  have sound := planOf_sound planned
  by_cases slash : '/' ∈ creation.name.toList
  · simp [slash, keys_ne_of_slash sound slash (VolumeHandle.plain_of_parseLegacy read) made gone same]
  · rw [made.text, gone.text, disk_eq_of_volid sound slash made gone same, List.singleton_inj,
      VolumeHandle.text_eq_iff_zone_eq, zoneFor_eq_iff made.named gone.node place]
    simp [slash]

/-! ## A storage that is to be shared, on one node -/

namespace OneNode

/-- The region: one node is online and has the storage. -/
def site : Site where
  clusters := Keyed.empty.put "r1" (some
    { members := [{ kind := "node", name := "z1", online := true }]
      storages := [⟨"z1", "data", { shared := true }⟩] })

/-- A volume of a name on the node. -/
def request (name : String) : CreateVolumeRequest :=
  { Uneven.request with
    name
    accessibilityRequirements := some
      { preferred := [⟨((∅ : StringMap).insert Label.region "r1").insert Label.zone "z1"⟩] } }

/-- The region with a volume of a name. -/
def made (name : String) : Site :=
  (Site.run (createVolume Uneven.fleet (request name)) site).2

/-- The disk of a volume. -/
def disk (filename : String) : DiskRequest :=
  ⟨9999, filename, 10737418240, none⟩

/-- The requests of a creation, with the locks that were held. -/
def creation (name : String) : List (List String × String × Hypervisor.Request) :=
  (Site.exchanges (createVolume Uneven.fleet (request name)) site).underLocks

/-- The requests of a deletion of a volume that was made, with the locks that were held. -/
def deletion (name id : String) : List (List String × String × Hypervisor.Request) :=
  (Site.exchanges (deleteVolume Uneven.fleet ⟨id⟩) (made name)).underLocks

end OneNode

set_option maxRecDepth 4000 in
/-- A volume is deleted under the id that was handed out, and so under the lock under which it was made. -/
theorem lock_keys_agree_on_one_node : ∃ keys keys',
    (keys, "r1", .createDisk "z1" "data" (OneNode.disk "vm-9999-pvc-1")) ∈ OneNode.creation "pvc-1" ∧
      (keys', "r1", .deleteDisk "z1" "data" "data:vm-9999-pvc-1") ∈
        OneNode.deletion "pvc-1" "r1//data/vm-9999-pvc-1" ∧ keys = keys' := by
  have makes : (["r1//data/vm-9999-pvc-1"], "r1", .createDisk "z1" "data" (OneNode.disk "vm-9999-pvc-1")) ∈
      OneNode.creation "pvc-1" := by decide +kernel
  have deletes : (["r1//data/vm-9999-pvc-1"], "r1", .deleteDisk "z1" "data" "data:vm-9999-pvc-1") ∈
      OneNode.deletion "pvc-1" "r1//data/vm-9999-pvc-1" := by decide +kernel
  have shared : (Site.exchanges (createVolume Uneven.fleet (OneNode.request "pvc-1")) OneNode.site).toldShared
      "r1" "z1" "data" = true := by decide +kernel
  obtain ⟨plan, v, -, read, -, -, -, agree⟩ := lock_keys_agree_iff Uneven.fleet Uneven.fleet
    (OneNode.request "pvc-1") ⟨"r1//data/vm-9999-pvc-1"⟩ (Site.runsTo_exchanges _ _) (Site.runsTo_exchanges _ _)
    makes deletes (by decide +kernel) (.inl shared)
  have zone : (VolumeHandle.parseLegacy "r1//data/vm-9999-pvc-1").toOption.map (·.zone) = some "" := by decide +kernel
  rw [read] at zone
  have anywhere : v.zone = "" := Option.some.inj zone
  exact ⟨_, _, makes, deletes, agree.mpr ⟨by simp [shared, anywhere], by decide⟩⟩

set_option maxRecDepth 4000 in
/-- **One disk under two locks.** A disk on a storage that is shared is deleted under an id that names the node, and the
disk of a volume whose name holds a slash is deleted under its own name: each time another lock was held when it was
made. -/
theorem lock_keys_differ :
    ((["r1//data/vm-9999-pvc-1"], "r1", .createDisk "z1" "data" (OneNode.disk "vm-9999-pvc-1")) ∈
        OneNode.creation "pvc-1" ∧
      (["r1/z1/data/vm-9999-pvc-1"], "r1", .deleteDisk "z1" "data" "data:vm-9999-pvc-1") ∈
        OneNode.deletion "pvc-1" "r1/z1/data/vm-9999-pvc-1" ∧
      Site.ClusterState.newVolid "data" (OneNode.disk "vm-9999-pvc-1") = "data:vm-9999-pvc-1") ∧
    (["r1//data/vm-9999-a/b"], "r1", .createDisk "z1" "data" (OneNode.disk "b")) ∈ OneNode.creation "a/b" ∧
      (["r1//data/b"], "r1", .deleteDisk "z1" "data" "data:b") ∈ OneNode.deletion "a/b" "r1//data/b" ∧
      Site.ClusterState.newVolid "data" (OneNode.disk "b") = "data:b" := by
  decide +kernel

end Provisioning

end ClusterVolumes
