import ClusterVolumes.Maintenance.Relocate
import ClusterVolumes.Proofs.Maintenance.Preparation
import ClusterVolumes.Proofs.Site.Records

/-!
# The steps of a move

A disk is moved in steps: it is found free, copied, the copy's task is awaited, the copy is listed at the target, the
record of the volume is deleted and made anew, and the source is deleted. `Move.Reached` says, of a history alone, how
far a move has come, and `Move.Due` which call may be made then. Every call of `Maintenance.relocate` that changes disks
or the record of a volume is due, whatever the collaborators answer, and all calls before it succeeded
(`Move.relocate_ensures`).

Each step has its lemma, from what has been reached before it to what is reached after it: `awaitDetached_ensures`,
`copyDisk_ensures` with `awaitTask_ensures`, and `recordAnew_ensures`.
-/

namespace ClusterVolumes

open Orchestrator
open Service

/-- Does the call change disks or the records of volumes? -/
def Call.isMoving : Call → Bool
  | .cluster _ r => r.mutates
  | .orchestrator (.deleteVolume _) | .orchestrator (.createVolume _) | .orchestrator (.replaceVolume _) => true
  | _ => false

/-- Preparing calls move nothing. -/
theorem Call.isMoving_of_isPreparing {c : Call} (h : c.isPreparing = true) : c.isMoving = false := by
  cases c with
  | cluster region r => cases r <;> first | rfl | cases h
  | orchestrator r => cases r <;> first | rfl | cases h
  | sleep ms => rfl
  | deadline ms => rfl
  | _ => cases h

/-- Preparing calls change no disk. -/
theorem Call.changesDisks_of_isPreparing {c : Call} (h : c.isPreparing = true) : c.changesDisks = false := by
  cases c with
  | cluster region r => exact Call.isMoving_of_isPreparing h
  | _ => rfl

/-- A call that changes no disk deletes none. -/
theorem Call.deletesDisk_eq_false {c : Call} (h : c.changesDisks = false) : c.deletesDisk = false :=
  Bool.eq_false_iff.mpr fun hd => absurd (Call.changesDisks_of_deletesDisk hd) (by simp [h])

/-! ## What is seen of the owners of a disk -/

/-- May a machine of the cluster have the disk of a volume? The driver's own machine does not count, and a disk that
lies on one node can only be had by a machine there. -/
def Hypervisor.ClusterResource.MayOwn (r : Hypervisor.ClusterResource) (volume : VolumeHandle) (vmid : UInt32) :
    Prop :=
  r.kind = "qemu" ∧ r.vmid = some vmid ∧ vmid.toNat ≠ DiskName.reservedVm ∧
    (volume.isShared = true ∨ r.node = volume.zone)

/-- Where a machine of the volume's region is. -/
def Hypervisor.ClusterResource.machine (r : Hypervisor.ClusterResource) (volume : VolumeHandle) (vmid : UInt32) :
    Machine :=
  ⟨volume.region, r.node, vmid, r.name.getD ""⟩

namespace Fleet

variable {volume : VolumeHandle}

/-- A machine that cannot have the disk is passed over, -/
theorem findOwnerAmong_excluded {r : Hypervisor.ClusterResource} {rest : List Hypervisor.ClusterResource}
    (h : ∀ vmid, ¬r.MayOwn volume vmid) : findOwnerAmong volume (r :: rest) = findOwnerAmong volume rest := by
  rw [findOwnerAmong]
  split
  · rename_i vmid kind number
    refine if_pos ?_
    by_cases reserved : vmid.toNat = DiskName.reservedVm
    · exact .inl reserved
    · have away : ¬(volume.isShared = true ∨ r.node = volume.zone) := fun home =>
        h vmid ⟨kind, number, reserved, home⟩
      exact .inr (by simpa using away)
  · rfl

/-- and the configuration of any other one is read. -/
theorem findOwnerAmong_mayOwn {r : Hypervisor.ClusterResource} {vmid : UInt32}
    {rest : List Hypervisor.ClusterResource} (h : r.MayOwn volume vmid) : findOwnerAmong volume (r :: rest) = (do
      let config ← Service.cluster volume.region (.vmConfig r.node vmid)
      if Machine.hasDisk config volume.volid then pure (some (r.machine volume vmid))
      else findOwnerAmong volume rest) := by
  obtain ⟨kind, number, own, home⟩ := h
  rw [findOwnerAmong, kind, number]
  refine if_neg ?_
  rintro (reserved | ⟨lone, elsewhere⟩)
  · exact own reserved
  · rcases home with shared | here
    · simp [shared] at lone
    · exact elsewhere here

end Fleet

/-- Exchanges in which a cluster told the configuration of each of some machines that may have the disk of a volume,
and none of them names the disk. -/
def History.NoneOwns (volume : VolumeHandle) (machines : List Hypervisor.ClusterResource) (reads : History) : Prop :=
  ∀ r ∈ machines, ∀ vmid, r.MayOwn volume vmid → ∃ config,
    Exchange.cluster volume.region (.vmConfig r.node vmid) (.ok config) ∈ reads ∧
      Machine.hasDisk config volume.volid = false

/-! ## Moves -/

/-- A disk with the name of its volume, and the node to which it is moved. -/
structure Move where
  source : VolumeHandle
  name : String
  target : String

/-- How far a move has come. -/
inductive Milestone
  | free
  | started (task : String)
  | copied
  | listed
  | unrecorded
  | recorded

namespace Move

/-- The handle of the copy: only the zone is another one. -/
def goal (w : Move) : VolumeHandle :=
  { w.source with zone := w.target }

/-- The record of the volume was just deleted, after it was read last. The new record is the one that was read, put
under the handle and zone of the copy. -/
def Renews (w : Move) (past : History) (v : VolumeRecord) : Prop :=
  ∃ read policy earlier, past = Exchange.orchestrator (.deleteVolume w.name) (.ok ()) ::
      Exchange.orchestrator (.volume w.name) (.ok (some read)) :: earlier ∧
    v = read.relocated w.goal w.target policy

theorem Renews.read {w : Move} {past : History} {v : VolumeRecord} (h : w.Renews past v) : ∃ read policy,
    Exchange.orchestrator (.volume w.name) (.ok (some read)) ∈ past ∧ v = read.relocated w.goal w.target policy := by
  obtain ⟨read, policy, earlier, rfl, renewed⟩ := h
  exact ⟨read, policy, by simp, renewed⟩

/-- What a history tells of a move: each step succeeded after the one before it. -/
inductive Reached (w : Move) : Milestone → History → Prop
  | later {m : Milestone} {past : History} (e : Program.Exchange collaborators) :
      Reached w m past → Reached w m (e :: past)
  | free {past reads : History} {machines : List Hypervisor.ClusterResource} :
      reads.NoneOwns w.source machines →
      Reached w .free (reads ++ Exchange.cluster w.source.region (.resources .vm) (.ok machines) :: past)
  | started {past : History} {task : String} : Reached w .free past →
      Reached w (.started task) (Exchange.cluster w.source.region
        (.copyVolume w.source.zone w.source.storage w.source.volid w.target) (.ok task) :: past)
  | copied {past : History} {task : String} {status : Hypervisor.TaskStatus} : Reached w (.started task) past →
      status.isRunning = false → status.exitStatus = some "OK" →
      Reached w .copied (Exchange.cluster w.source.region (.taskStatus w.source.zone task) (.ok status) :: past)
  | listed {past : History} {content : List Hypervisor.StorageVolume} : Reached w .copied past →
      (∃ v ∈ content, v.volid = w.source.volid) →
      Reached w .listed
        (Exchange.cluster w.source.region (.storageContent w.target w.source.storage) (.ok content) :: past)
  | unrecorded {past : History} : Reached w .listed past →
      Reached w .unrecorded (Exchange.orchestrator (.deleteVolume w.name) (.ok ()) :: past)
  | recorded {past : History} {v made : VolumeRecord} : Reached w .unrecorded past → w.Renews past v →
      Reached w .recorded (Exchange.orchestrator (.createVolume v) (.ok made) :: past)

/-- Which of the calls that move something may be made after a history: one copy, then the record deleted and made
anew, then one deletion of the source. -/
def Due (w : Move) (past : History) : Call → Prop
  | .cluster region (.copyVolume node storage volid target) =>
    region = w.source.region ∧ node = w.source.zone ∧ storage = w.source.storage ∧ volid = w.source.volid ∧
      target = w.target ∧ w.Reached .free past ∧ past.Without Call.changesDisks
  | .orchestrator (.deleteVolume name) => name = w.name ∧ w.Reached .listed past
  | .orchestrator (.createVolume v) => w.Reached .unrecorded past ∧ w.Renews past v
  | .cluster region (.deleteDisk node storage volid) =>
    region = w.source.region ∧ node = w.source.zone ∧ storage = w.source.storage ∧ volid = w.source.volid ∧
      w.Reached .recorded past ∧ past.Without Call.deletesDisk
  | .orchestrator (.replaceVolume v) => ∃ name read policy,
    Exchange.orchestrator (.volume name) (.ok (some read)) ∈ past ∧ v = read.withPolicy policy
  | .cluster _ (.createDisk ..) => False
  | _ => True

/-- A call that moves something is due, and all calls before it succeeded. -/
def InTurn (w : Move) (past : History) (call : Call) : Prop :=
  call.isMoving = true → w.Due past call ∧ past.AllSucceeded

/-- The history begins with the look at a bound claim, from which the move has its disk and its name. -/
def Opened (w : Move) (driver space claim : String) (past : History) : Prop :=
  ∃ (later : History) (bound : BoundClaim) (name : String),
    past = later ++ [Exchange.orchestrator (.volume name) (.ok (some bound.volume)),
      Exchange.orchestrator (.claim space claim) (.ok (some bound.claim))] ∧
    bound.Told driver name ∧ w.source = bound.handle ∧ w.name = bound.volume.name

/-- What was opened stays opened. -/
theorem Opened.later {w : Move} {driver space claim : String} {past : History}
    (h : w.Opened driver space claim past) (e : Program.Exchange collaborators) :
    w.Opened driver space claim (e :: past) := by
  obtain ⟨later, bound, name, rfl, h⟩ := h
  exact ⟨e :: later, bound, name, rfl, h⟩

/-- A move that has come past its copy has listed it. -/
theorem Reached.listing {w : Move} {k : Milestone} {past : History} (h : w.Reached k past)
    (hk : k = .listed ∨ k = .unrecorded ∨ k = .recorded) : ∃ content,
      Exchange.cluster w.source.region (.storageContent w.target w.source.storage) (.ok content) ∈ past ∧
        ∃ v ∈ content, v.volid = w.source.volid := by
  induction h with
  | later e _ ih =>
    obtain ⟨content, hmem, hv⟩ := ih hk
    exact ⟨content, List.mem_cons_of_mem _ hmem, hv⟩
  | free _ => rcases hk with h | h | h <;> cases h
  | started _ _ => rcases hk with h | h | h <;> cases h
  | copied _ _ _ _ => rcases hk with h | h | h <;> cases h
  | listed _ hv _ => exact ⟨_, List.mem_cons_self, hv⟩
  | unrecorded _ ih =>
    obtain ⟨content, hmem, hv⟩ := ih (.inl rfl)
    exact ⟨content, List.mem_cons_of_mem _ hmem, hv⟩
  | recorded _ _ ih =>
    obtain ⟨content, hmem, hv⟩ := ih (.inr (.inl rfl))
    exact ⟨content, List.mem_cons_of_mem _ hmem, hv⟩

/-- A move has come so far, all calls succeeded and no disk was deleted. -/
structure At (w : Move) (m : Milestone) (past : History) : Prop where
  reached : w.Reached m past
  succeeded : past.AllSucceeded
  kept : past.Without Call.deletesDisk

/-- A call that succeeds and deletes no disk takes nothing back. -/
theorem At.later {w : Move} {m : Milestone} {past : History} (h : w.At m past)
    {e : Program.Exchange collaborators} (he : Exchange.succeeded e = true) (hd : e.request.deletesDisk = false) :
    w.At m (e :: past) :=
  ⟨h.reached.later e, History.allSucceeded_cons he h.succeeded, History.without_cons hd h.kept⟩

end Move

/-! ## Finding the disk free -/

/-- Nothing was changed so far: all calls succeeded, and none changed disks. -/
structure History.Calm (past : History) : Prop where
  succeeded : past.AllSucceeded
  unchanged : past.Without Call.changesDisks

theorem History.Calm.later {past : History} (h : past.Calm) {e : Program.Exchange collaborators}
    (he : Exchange.succeeded e = true) (hd : e.request.changesDisks = false) : History.Calm (e :: past) :=
  ⟨History.allSucceeded_cons he h.succeeded, History.without_cons hd h.unchanged⟩

/-- A calm history has no deletion of a disk, and a look that fails adds none. -/
theorem History.Calm.kept {past : History} (h : past.Calm) {e : Program.Exchange collaborators}
    (hd : e.request.deletesDisk = false) : History.Without Call.deletesDisk (e :: past) :=
  History.without_cons hd h.unchanged.deletes

section

variable {P : History → Call → Prop}

/-- Looking for the owner of a disk among machines: if there is none, all that may have the disk were asked. -/
theorem Fleet.findOwnerAmong_ensures (hP : ∀ past call, call.isMoving = false → P past call)
    (volume : VolumeHandle) : ∀ (machines : List Hypervisor.ClusterResource) {past : History}, past.Calm →
      Ensures anyAnswers P (Fleet.findOwnerAmong volume machines)
        (fun o t => t.Calm ∧ ∃ reads, t = reads ++ past ∧ (o = none → reads.NoneOwns volume machines))
        (fun _ t => t.Without Call.deletesDisk) past
  | [], past, h => ⟨h, [], rfl, fun _ _ hr => nomatch hr⟩
  | r :: rest, past, h => by
    by_cases may : ∃ vmid, r.MayOwn volume vmid
    · obtain ⟨vmid, may⟩ := may
      rw [Fleet.findOwnerAmong_mayOwn may]
      refine ensures_bind.mpr (ask_cluster (hP _ _ rfl) (fun config => ?_) fun f => h.kept rfl)
      split
      · exact ⟨h.later rfl rfl, [_], rfl, fun e => nomatch e⟩
      · rename_i hno
        refine (Fleet.findOwnerAmong_ensures hP volume rest (h.later rfl rfl)).post ?_ fun _ _ h => h
        rintro o t ⟨hc, reads, rfl, hn⟩
        refine ⟨hc, reads ++ [_], by rw [List.append_assoc]; rfl, fun ho r' hr' vmid' hm => ?_⟩
        rcases List.mem_cons.mp hr' with rfl | hr'
        · obtain rfl : vmid = vmid' := Option.some.inj (may.2.1.symm.trans hm.2.1)
          exact ⟨config, by simp, by simpa using hno⟩
        · obtain ⟨config', hmem, hd⟩ := hn ho r' hr' vmid' hm
          exact ⟨config', List.mem_append_left _ hmem, hd⟩
    · have none : ∀ vmid, ¬r.MayOwn volume vmid := not_exists.mp may
      rw [Fleet.findOwnerAmong_excluded none]
      refine (Fleet.findOwnerAmong_ensures hP volume rest h).post ?_ fun _ _ h => h
      rintro o t ⟨hc, reads, e, hn⟩
      refine ⟨hc, reads, e, fun ho r' hr' vmid hm => ?_⟩
      rcases List.mem_cons.mp hr' with rfl | hr'
      · exact absurd hm (none vmid)
      · exact hn ho r' hr' vmid hm

/-- Waiting for a disk to be detached ends well only after a look that found it free. -/
theorem Maintenance.awaitDetached_ensures (m : Maintenance) (w : Move)
    (hP : ∀ past call, call.isMoving = false → P past call) {past : History} (h : past.Calm) :
    Ensures anyAnswers P (m.awaitDetached w.source) (fun _ t => t.Calm ∧ w.Reached .free t)
      (fun _ t => t.Without Call.deletesDisk) past := by
  refine Ensures.pollUntil (K := History.Calm) (fun t ht => ?_) (fun t ht => ht.unchanged.deletes)
    (fun t ht => ht.unchanged.deletes) (hP _ _ rfl) fun _ _ begun => begun ▸ h.later rfl rfl
  unfold Maintenance.isDetached Fleet.findDiskOwner
  refine ensures_bind.mpr (ensures_bind.mpr (ensures_ofExcept.mpr ?_))
  cases m.fleet.get w.source.region with
  | error f => exact ht.unchanged.deletes
  | ok access =>
    refine ensures_bind.mpr (ask_cluster (hP _ _ rfl) (fun machines => ?_) fun f => ht.kept rfl)
    refine (Fleet.findOwnerAmong_ensures hP w.source machines (ht.later rfl rfl)).post ?_ fun _ _ h => h
    rintro (_ | owner) u ⟨hu, reads, rfl, hn⟩
    · exact ⟨hu, .free (hn rfl)⟩
    · refine ⟨hP _ _ rfl, ?_⟩
      rintro _ _ rfl
      exact hu.later rfl rfl

end

/-! ## The steps in turn -/

namespace Move

variable (w : Move)

theorem inTurn_of_not_moving (past : History) (call : Call) (h : call.isMoving = false) : w.InTurn past call :=
  fun h' => absurd h' (by simp [h])

/-- Waiting for the task of the copy ends well only after it was seen stopped and well. -/
theorem awaitTask_ensures {task : String} (timeout pause : Nat) {past : History} (h : w.At (.started task) past) :
    Ensures anyAnswers w.InTurn (Fleet.awaitTask w.source.region w.source.zone task timeout pause)
      (fun _ t => w.At .copied t) (fun _ t => t.Without Call.deletesDisk) past := by
  refine Ensures.pollUntil (K := w.At (.started task)) (fun t ht => ?_) (fun t ht => ht.kept) (fun t ht => ht.kept)
    (w.inTurn_of_not_moving _ _ rfl) fun _ _ begun => begun ▸ h.later rfl rfl
  unfold Fleet.taskDone
  refine ensures_bind.mpr (ask_cluster (w.inTurn_of_not_moving _ _ rfl) (fun status => ?_)
    fun f => History.without_cons rfl ht.kept)
  split
  · refine ⟨w.inTurn_of_not_moving _ _ rfl, ?_⟩
    rintro _ _ rfl
    exact (ht.later rfl rfl).later rfl rfl
  · rename_i hrun
    split
    · rename_i hok
      refine ⟨.copied ht.reached (by simpa using hrun) (beq_iff_eq.mp hok), ?_, ?_⟩
      · exact History.allSucceeded_cons rfl ht.succeeded
      · exact History.without_cons rfl ht.kept
    · exact History.without_cons rfl ht.kept

/-- A disk is copied only when it is free, and the copy is seen at the target. -/
theorem copyDisk_ensures (m : Maintenance) (timeout : Nat) {past : History} (h : past.Calm)
    (hf : w.Reached .free past) :
    Ensures anyAnswers w.InTurn (m.copyDisk w.source w.target timeout) (fun _ t => w.At .listed t)
      (fun _ t => t.Without Call.deletesDisk) past := by
  unfold Maintenance.copyDisk
  refine ensures_bind.mpr (ask_cluster (fun _ => ⟨⟨rfl, rfl, rfl, rfl, rfl, hf, h.unchanged⟩, h.succeeded⟩)
    (fun task => ?_) fun f => h.kept rfl)
  have started : w.At (.started task) (Exchange.cluster w.source.region
      (.copyVolume w.source.zone w.source.storage w.source.volid w.target) (.ok task) :: past) :=
    ⟨.started hf, History.allSucceeded_cons rfl h.succeeded, h.kept rfl⟩
  refine ensures_bind.mpr ((w.awaitTask_ensures timeout m.timing.pause started).post (fun _ t ht => ?_)
    fun _ _ h => h)
  refine ensures_bind.mpr (ask_cluster (w.inTurn_of_not_moving _ _ rfl) (fun content => ?_)
    fun f => History.without_cons rfl ht.kept)
  split
  · rename_i hany
    refine ⟨.listed ht.reached (by simpa using hany), ?_, ?_⟩
    · exact History.allSucceeded_cons rfl ht.succeeded
    · exact History.without_cons rfl ht.kept
  · exact History.without_cons rfl ht.kept

/-- The record of a volume is read: it is what the orchestrator told last. -/
theorem volumeRecord_ensures {k : Milestone} (name : String) {past : History} (h : w.At k past) :
    Ensures anyAnswers w.InTurn (Maintenance.volumeRecord name)
      (fun v t => w.At k t ∧ t = Exchange.orchestrator (.volume name) (.ok (some v)) :: past)
      (fun _ t => t.Without Call.deletesDisk) past := by
  refine ensures_bind.mpr (ask_orchestrator (w.inTurn_of_not_moving _ _ rfl) (fun o => ?_)
    fun f => History.without_cons rfl h.kept)
  refine ensures_require.mpr ⟨?_, fun _ => History.without_cons rfl h.kept⟩
  rintro v rfl
  exact ⟨h.later rfl rfl, rfl⟩

/-- Retaining a volume is no step of a move. -/
theorem retain_ensures {k : Milestone} (name : String) {past : History} (h : w.At k past) :
    Ensures anyAnswers w.InTurn (Maintenance.retain name) (fun _ t => w.At k t)
      (fun _ t => t.Without Call.deletesDisk) past := by
  unfold Maintenance.retain
  refine ensures_bind.mpr ((w.volumeRecord_ensures name h).post (fun v t ht => ?_) fun _ _ h => h)
  simp only
  split
  · exact ht.1
  · refine ensures_bind.mpr ?_
    unfold Maintenance.setPolicy
    refine ensures_bind.mpr ((w.volumeRecord_ensures name ht.1).post (fun v u hu => ?_) fun _ _ h => h)
    simp only
    split
    · exact hu.1
    · have read : Exchange.orchestrator (.volume name) (.ok (some v)) ∈ u := by
        rw [hu.2]
        exact List.mem_cons_self
      refine ensures_bind.mpr (ask_orchestrator (fun _ => ⟨⟨name, v, _, read, rfl⟩, hu.1.succeeded⟩)
        (fun _ => hu.1.later rfl rfl) fun _ => History.without_cons rfl hu.1.kept)

/-- The record of a volume is deleted when the copy is listed, and made anew at once. -/
theorem recordAnew_ensures {past : History} (h : w.At .listed past) :
    Ensures anyAnswers w.InTurn (Maintenance.recordAnew w.name w.goal w.target) (fun _ t => w.At .recorded t)
      (fun _ t => t.Without Call.deletesDisk) past := by
  unfold Maintenance.recordAnew
  refine ensures_bind.mpr ((w.retain_ensures w.name h).post (fun policy t ht => ?_) fun _ _ h => h)
  refine ensures_bind.mpr ((w.volumeRecord_ensures w.name ht).post (fun v u hu => ?_) fun _ _ h => h)
  obtain ⟨hu, rfl⟩ := hu
  refine ensures_bind.mpr (ask_orchestrator (fun _ => ⟨⟨rfl, hu.reached⟩, hu.succeeded⟩) (fun _ => ?_)
    fun _ => History.without_cons rfl hu.kept)
  have unrecorded : w.At .unrecorded (Exchange.orchestrator (.deleteVolume w.name) (.ok ()) ::
      Exchange.orchestrator (.volume w.name) (.ok (some v)) :: t) :=
    ⟨.unrecorded hu.reached, History.allSucceeded_cons rfl hu.succeeded, History.without_cons rfl hu.kept⟩
  have renews : w.Renews (Exchange.orchestrator (.deleteVolume w.name) (.ok ()) ::
      Exchange.orchestrator (.volume w.name) (.ok (some v)) :: t) (v.relocated w.goal w.target policy) :=
    ⟨v, policy, t, rfl, rfl⟩
  refine ensures_bind.mpr (ask_orchestrator (fun _ => ⟨⟨unrecorded.reached, renews⟩, unrecorded.succeeded⟩)
    (fun _ => ?_) fun _ => History.without_cons rfl unrecorded.kept)
  exact ⟨.recorded unrecorded.reached renews, History.allSucceeded_cons rfl unrecorded.succeeded,
    History.without_cons rfl unrecorded.kept⟩

/-- The source of a move was deleted, as the cluster told. -/
def SourceDeleted (past : History) : Prop :=
  Exchange.cluster w.source.region (.deleteDisk w.source.zone w.source.storage w.source.volid) (.ok ()) ∈ past

/-- A failure that does not speak of the source leaves it. -/
def FailsWithout (f : Failure) (past : History) : Prop :=
  (∀ cause, f ≠ Maintenance.sourceRemains w.source w.target cause) → past.Without Call.deletesDisk

/-- A move makes its steps in turn. If it ends well, the source was deleted. -/
theorem relocate_ensures (m : Maintenance) (bound : BoundClaim) (timeout : Nat) (hs : bound.handle = w.source)
    (hn : bound.volume.name = w.name) {past : History} (h : past.Calm) :
    Ensures anyAnswers w.InTurn (m.relocate bound w.target timeout) (fun _ t => w.SourceDeleted t)
      w.FailsWithout past := by
  have early : ∀ (f : Failure) (t : History), t.Without Call.deletesDisk → w.FailsWithout f t :=
    fun _ _ ht _ => ht
  unfold Maintenance.relocate
  rw [hs, hn]
  refine ensures_bind.mpr ((m.awaitDetached_ensures w w.inTurn_of_not_moving h).post (fun _ t ht => ?_) early)
  refine ensures_bind.mpr ((w.copyDisk_ensures m timeout ht.1 ht.2).post (fun _ t ht => ?_) early)
  refine ensures_bind.mpr ((w.recordAnew_ensures ht).post (fun _ t ht => ?_) early)
  refine ensures_rewording.mpr (ask_cluster ?_ (fun _ => List.mem_cons_self) fun f hf => absurd rfl (hf f))
  exact fun _ => ⟨⟨rfl, rfl, rfl, rfl, ht.reached, ht.kept⟩, ht.succeeded⟩

end Move

end ClusterVolumes
