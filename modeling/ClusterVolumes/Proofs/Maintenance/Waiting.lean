import ClusterVolumes.Proofs.Maintenance.Footprints
import ClusterVolumes.Proofs.Polling

/-!
# What the work waits for

The work waits for four things: that a task of a cluster stops, that no machine has a disk, that a claim has its volume
and that no pod uses some claims. `TaskLook`, `DetachLook`, `BindLook` and `FreeLook` say what one look at each of them
comes to, whatever is answered.

The first three waits look as long as the time for them is not over. The last one looks once more when it is, and if
the pods are gone, things may settle once (`Clearing`). The main result is `waits_decide`. A wait whose end the clock
cannot show does not look at all: `awaitTask_breaks_off`.
-/

namespace ClusterVolumes

open Orchestrator
open Service

/-! ## Single looks -/

namespace Hypervisor.TaskStatus

variable {status : TaskStatus}

theorem isRunning_iff : status.isRunning = true ↔ status.status = "running" :=
  beq_iff_eq

theorem isOk_iff : status.isOk = true ↔ status.exitStatus = some "OK" :=
  beq_iff_eq

end Hypervisor.TaskStatus

namespace Fleet

/-- A look at a task: it is still running, it has stopped well or otherwise, or the cluster does not tell. -/
inductive TaskLook (region node task : String) : Except Failure (Option Unit) → History → Prop
  | running {status : Hypervisor.TaskStatus} : status.status = "running" →
      TaskLook region node task (.ok none) [Exchange.cluster region (.taskStatus node task) (.ok status)]
  | well {status : Hypervisor.TaskStatus} : status.status ≠ "running" → status.exitStatus = some "OK" →
      TaskLook region node task (.ok (some ())) [Exchange.cluster region (.taskStatus node task) (.ok status)]
  | ill {status : Hypervisor.TaskStatus} : status.status ≠ "running" → status.exitStatus ≠ some "OK" →
      TaskLook region node task (.error (.taskFailed task (status.exitStatus.getD status.status)))
        [Exchange.cluster region (.taskStatus node task) (.ok status)]
  | failed (f : Failure) :
      TaskLook region node task (.error f) [Exchange.cluster region (.taskStatus node task) (.error f)]

theorem taskDone_looks (region node task : String) : Looks (taskDone region node task) (TaskLook region node task) where
  runs_iff outcome made := by
    refine runsTo_cluster_bind.trans ?_
    simp only [Hypervisor.TaskStatus.isRunning_iff, Hypervisor.TaskStatus.isOk_iff]
    constructor
    · rintro (⟨status, rest⟩ | ⟨f, rfl, rfl⟩)
      · split at rest
        · obtain ⟨rfl, rfl⟩ := runsTo_pure.mp rest
          exact .running ‹_›
        split at rest
        · obtain ⟨rfl, rfl⟩ := runsTo_pure.mp rest
          exact .well ‹_› ‹_›
        · obtain ⟨rfl, rfl⟩ := runsTo_throw.mp rest
          exact .ill ‹_› ‹_›
      · exact .failed f
    · intro look
      cases look with
      | @running status running =>
        refine .inl ⟨status, ?_⟩
        rw [if_pos running]
        exact runsTo_pure.mpr ⟨rfl, rfl⟩
      | @well status stopped well =>
        refine .inl ⟨status, ?_⟩
        rw [if_neg stopped, if_pos well]
        exact runsTo_pure.mpr ⟨rfl, rfl⟩
      | @ill status stopped ill =>
        refine .inl ⟨status, ?_⟩
        rw [if_neg stopped, if_neg ill]
        exact runsTo_throw.mpr ⟨rfl, rfl⟩
      | failed f => exact .inr ⟨f, rfl, rfl⟩
  timeless _ _ look := by cases look <;> rfl

end Fleet

namespace Maintenance

section

variable (m : Maintenance)

/-- A look at the machines that may have a disk: none has it, one has it, or it cannot be found out. -/
inductive DetachLook (handle : VolumeHandle) : Except Failure (Option Unit) → History → Prop
  | free {made : History} : (m.fleet.findDiskOwner handle).RunsTo anyAnswers [] (.ok none) made →
      DetachLook handle (.ok (some ())) made
  | held {made : History} (owner : Machine) :
      (m.fleet.findDiskOwner handle).RunsTo anyAnswers [] (.ok (some owner)) made → DetachLook handle (.ok none) made
  | failed {made : History} (f : Failure) : (m.fleet.findDiskOwner handle).RunsTo anyAnswers [] (.error f) made →
      DetachLook handle (.error f) made

theorem isDetached_looks (handle : VolumeHandle) : Looks (m.isDetached handle) (m.DetachLook handle) where
  runs_iff outcome made := by
    rw [isDetached, runsTo_bind]
    constructor
    · rintro (⟨_ | owner, u, asked, rest⟩ | ⟨f, rfl, asked⟩)
      · obtain ⟨rfl, rfl⟩ := runsTo_pure.mp rest
        exact .free asked
      · obtain ⟨rfl, rfl⟩ := runsTo_pure.mp rest
        exact .held owner asked
      · exact .failed f asked
    · intro look
      cases look with
      | free asked => exact .inl ⟨_, _, asked, runsTo_pure.mpr ⟨rfl, rfl⟩⟩
      | held owner asked => exact .inl ⟨_, _, asked, runsTo_pure.mpr ⟨rfl, rfl⟩⟩
      | failed f asked => exact .inr ⟨f, rfl, asked⟩
  timeless outcome made look := by
    have asks : (m.fleet.findDiskOwner handle).Asks fun call => call.duration = 0 :=
      m.fleet.findDiskOwner_asks_of rfl fun _ _ => rfl
    refine History.elapsed_eq_zero ?_
    cases look with
    | free asked => exact asks.takes _ _ asked
    | held owner asked => exact asks.takes _ _ asked
    | failed f asked => exact asks.takes _ _ asked

/-- A look at a claim: it has its volume, it has not got it yet or is not there, or the look fails. -/
inductive BindLook (space name : String) : Except Failure (Option Unit) → History → Prop
  | bound {c : Claim} : c.status.bind (·.phase) = some "Bound" →
      BindLook space name (.ok (some ())) [Exchange.orchestrator (.claim space name) (.ok (some c))]
  | unbound {c : Claim} : c.status.bind (·.phase) ≠ some "Bound" →
      BindLook space name (.ok none) [Exchange.orchestrator (.claim space name) (.ok (some c))]
  | missing : BindLook space name (.ok none) [Exchange.orchestrator (.claim space name) (.ok none)]
  | failed (f : Failure) : BindLook space name (.error f) [Exchange.orchestrator (.claim space name) (.error f)]

theorem isBound_looks (space name : String) : Looks (isBound space name) (BindLook space name) where
  runs_iff outcome made := by
    refine runsTo_orchestrator_bind.trans ?_
    constructor
    · rintro (⟨_ | c, rest⟩ | ⟨f, rfl, rfl⟩)
      · obtain ⟨rfl, rfl⟩ := runsTo_pure.mp rest
        exact .missing
      · obtain ⟨rfl, rfl⟩ := runsTo_pure.mp rest
        by_cases bound : c.status.bind (·.phase) = some "Bound"
        · simpa [Claim.isBound, bound] using BindLook.bound bound
        · simpa [Claim.isBound, bound] using BindLook.unbound bound
      · exact .failed f
    · intro look
      cases look with
      | @bound c bound => exact .inl ⟨some c, runsTo_pure.mpr ⟨by simp [Claim.isBound, bound], rfl⟩⟩
      | @unbound c unbound => exact .inl ⟨some c, runsTo_pure.mpr ⟨by simp [Claim.isBound, unbound], rfl⟩⟩
      | missing => exact .inl ⟨none, runsTo_pure.mpr ⟨rfl, rfl⟩⟩
      | failed f => exact .inr ⟨f, rfl, rfl⟩
  timeless _ _ look := by cases look <;> rfl

/-- A look at the pods of a namespace: none uses one of some claims, some pod does, or the look fails. -/
inductive FreeLook (space : String) (claims : List String) : Except Failure (Option Unit) → History → Prop
  | free {pods : List Pod} : (∀ p ∈ pods, p.consumes claims = false) →
      FreeLook space claims (.ok (some ())) [Exchange.orchestrator (.pods space) (.ok pods)]
  | used {pods : List Pod} {p : Pod} : p ∈ pods → p.consumes claims = true →
      FreeLook space claims (.ok none) [Exchange.orchestrator (.pods space) (.ok pods)]
  | failed (f : Failure) : FreeLook space claims (.error f) [Exchange.orchestrator (.pods space) (.error f)]

theorem areFree_looks (space : String) (claims : List String) :
    Looks (areFree space claims) (FreeLook space claims) where
  runs_iff outcome made := by
    rw [areFree, consumers, bind_assoc]
    refine runsTo_orchestrator_bind.trans ?_
    simp only [pure_bind, runsTo_pure, List.isEmpty_iff]
    constructor
    · rintro (⟨pods, rfl, rfl⟩ | ⟨f, rfl, rfl⟩)
      · split
        · rename_i free
          exact .free fun p mem => by simpa using List.filter_eq_nil_iff.mp free p mem
        · rename_i used
          obtain ⟨p, mem⟩ := List.exists_mem_of_ne_nil _ used
          obtain ⟨listed, consumes⟩ := List.mem_filter.mp mem
          exact .used listed consumes
      · exact .failed f
    · intro look
      cases look with
      | @free pods unused =>
        have none : pods.filter (Pod.consumes claims) = [] :=
          List.filter_eq_nil_iff.mpr fun p mem => by simp [unused p mem]
        exact .inl ⟨pods, by rw [if_pos none], rfl⟩
      | @used pods p listed consumes =>
        have some : pods.filter (Pod.consumes claims) ≠ [] :=
          List.ne_nil_of_mem (List.mem_filter.mpr ⟨listed, consumes⟩)
        exact .inl ⟨pods, by rw [if_neg some], rfl⟩
      | failed f => exact .inr ⟨f, rfl, rfl⟩
  timeless _ _ look := by cases look <;> rfl

/-! ## The wait for pods to go -/

/-- Wait until no pod uses some claims. -/
def awaitFree (space : String) (claims : List String) : Service Unit :=
  pollPast m.timing.draining m.timing.pause (areFree space claims)
    (.timedOut "pod termination" (space ++ "/" ++ Text.quotedList claims))

/-- Delete some pods of a namespace. -/
def deletePods (space : String) (pods : List Pod) : Service Unit :=
  pods.forM fun p => Service.orchestrator (.deletePod space p.name)

theorem clear_parts (space : String) (claims : List String) (pods : List Pod) :
    m.clear space claims pods = (do
      deletePods space pods
      m.awaitFree space claims
      Service.sleep m.timing.settling) := by
  unfold clear deletePods awaitFree pollPast pollOnceMore
  refine bind_congr fun _ => ?_
  simp only [bind_assoc]
  refine bind_congr fun _ => bind_congr fun o => ?_
  cases o with
  | some _ => rfl
  | none => rfl

/-- How the clearing of claims of pods ends: a pod cannot be deleted, the wait fails, or things have settled once. -/
inductive Clearing (space : String) (claims : List String) (pods : List Pod) : Except Failure Unit → History → Prop
  | undeleted {made : History} (f : Failure) : (deletePods space pods).RunsTo anyAnswers [] (.error f) made →
      Clearing space claims pods (.error f) made
  | unfree {deleted waited : History} (f : Failure) : (deletePods space pods).RunsTo anyAnswers [] (.ok ()) deleted →
      (m.awaitFree space claims).RunsTo anyAnswers [] (.error f) waited →
      Clearing space claims pods (.error f) (waited ++ deleted)
  | settled {deleted waited : History} : (deletePods space pods).RunsTo anyAnswers [] (.ok ()) deleted →
      (m.awaitFree space claims).RunsTo anyAnswers [] (.ok ()) waited →
      Clearing space claims pods (.ok ()) (⟨.sleep m.timing.settling, ()⟩ :: (waited ++ deleted))

theorem runsTo_clear {space : String} {claims : List String} {pods : List Pod} {outcome : Except Failure Unit}
    {made : History} : (m.clear space claims pods).RunsTo anyAnswers [] outcome made ↔
      m.Clearing space claims pods outcome made := by
  rw [clear_parts, runsTo_bind]
  constructor
  · rintro (⟨_, deleted, first, rest⟩ | ⟨f, rfl, first⟩)
    · rcases runsTo_bind.mp rest with ⟨_, u, waiting, last⟩ | ⟨f, rfl, waiting⟩
      · obtain ⟨waited, alone, rfl⟩ := runsTo_later.mp waiting
        obtain ⟨_, rfl, rfl⟩ := runsTo_sleep.mp last
        exact .settled first alone
      · obtain ⟨waited, alone, rfl⟩ := runsTo_later.mp waiting
        exact .unfree f first alone
    · exact .undeleted f first
  · intro clearing
    cases clearing with
    | undeleted f first => exact .inr ⟨f, rfl, first⟩
    | unfree f first alone =>
      refine .inl ⟨(), _, first, runsTo_bind.mpr (.inr ⟨f, rfl, runsTo_later.mpr ⟨_, alone, rfl⟩⟩)⟩
    | settled first alone =>
      refine .inl ⟨(), _, first, runsTo_bind.mpr (.inl ⟨(), _, runsTo_later.mpr ⟨_, alone, rfl⟩, ?_⟩)⟩
      exact runsTo_sleep.mpr ⟨(), rfl, rfl⟩

end

/-! ## The waits -/

/-- **Waits decide in time.** Each wait that begins ends with the first look that decides anything, if that is taken in
time, and otherwise when all looks in time were in vain; the wait for pods to go takes one more look before it is given
up, and things settle once when they are gone. A wait begins at a site exactly if the clock can show the time at which it
is over, and any other wait is broken off without a look. The time that passes is what the clock of a site shows. -/
theorem waits_decide (m : Maintenance) (hp : 0 < m.timing.pause) :
    (∀ region node task timeout pause, 0 < pause →
      Polls (Fleet.awaitTask region node task timeout pause) (Fleet.taskDone region node task)
        (Fleet.TaskLook region node task) timeout pause (.timedOut "task completion" task)) ∧
    (∀ handle, Polls (m.awaitDetached handle) (m.isDetached handle) (m.DetachLook handle) m.timing.detaching
      m.timing.pause (.timedOut "disk detach" handle.text)) ∧
    (∀ space name, Polls (m.awaitBound space name) (isBound space name) (BindLook space name) m.timing.draining
      m.timing.pause (.timedOut "claim binding" (claimPath space name))) ∧
    (∀ space claims, PollsPast (m.awaitFree space claims) (areFree space claims) (FreeLook space claims)
      m.timing.draining m.timing.pause (.timedOut "pod termination" (space ++ "/" ++ Text.quotedList claims))) ∧
    (∀ space claims pods outcome made, (m.clear space claims pods).RunsTo anyAnswers [] outcome made ↔
      m.Clearing space claims pods outcome made) ∧
    ∀ (s t : Site) (past : History), Program.Replays (I := collaborators) Site.answer s past t →
      t.clock = s.clock + past.elapsed := by
  refine ⟨fun region node task timeout pause pauses => ?_, fun handle => ?_, fun space name => ?_,
    fun space claims => ?_, fun space claims pods outcome made => m.runsTo_clear, fun s t past replays => ?_⟩
  · exact polls_of_looks pauses (Fleet.taskDone_looks region node task)
  · exact polls_of_looks hp (m.isDetached_looks handle)
  · exact polls_of_looks hp (isBound_looks space name)
  · exact pollsPast_of_looks hp (areFree_looks space claims)
  · exact Site.clock_of_replays replays

/-! ### A second in half seconds -/

namespace LastMoment

/-- All waits take a second, with looks half a second apart. -/
def driver : Maintenance where
  fleet := ⟨∅⟩
  driver := "d"
  timing := { pause := 500, settling := 100, draining := 1000, detaching := 1000 }

/-- A task that is found running some times and has then stopped well. -/
def busy (looks : Nat) : Site where
  clusters := Keyed.empty.put "r1" (some
    { tasks := [⟨"copy", looks, { status := "stopped", exitStatus := some "OK" }⟩] })

def task : Service Unit :=
  Fleet.awaitTask "r1" "z1" "copy" 1000 500

/-- A pod that uses a claim, and is gone when it was listed three times. -/
def leaving : Site where
  orchestrator :=
    { pods := [{
        metadata := { name := some "web-0", space := some "default" }
        spec := some { nodeName := some "w1", volumes := some [{ claim := some { claimName := "data" } }] } }]
      leaving := Keyed.empty.put ("default", "web-0") (some 3) }

def pods : Service Unit :=
  driver.awaitFree "default" ["data"]

end LastMoment

set_option maxRecDepth 4000 in
/-- A task that stops in the last moment is seen, and one that stops later is not. Pods that are gone only when the time
for them is over are seen to be gone. -/
theorem waits_decide_last_moment :
    Begun 1000 (DecidedAfter (Fleet.TaskLook "r1" "z1" "copy") 500 (fun n => n * 500 ≤ 1000) (.ok (some ())))
        (Site.exchanges LastMoment.task (LastMoment.busy 2)) ∧
      (Site.exchanges LastMoment.task (LastMoment.busy 2)).elapsed = 1000 ∧
      Begun 1000 (Undecided (Fleet.TaskLook "r1" "z1" "copy") 500 3)
        (Site.exchanges LastMoment.task (LastMoment.busy 3)) ∧
      Begun 1000 (DecidedAfter (FreeLook "default" ["data"]) 500 (· ≤ 3) (.ok (some ())))
        (Site.exchanges LastMoment.pods LastMoment.leaving) ∧
      (Site.exchanges LastMoment.pods LastMoment.leaving).elapsed = 1500 := by
  obtain ⟨tasks, -, -, pods, -⟩ := waits_decide LastMoment.driver (by decide)
  have task := tasks "r1" "z1" "copy" 1000 500 (by decide)
  have run (looks : Nat) := Site.runsTo_exchanges LastMoment.task (LastMoment.busy looks)
  have seen : (Site.run LastMoment.task (LastMoment.busy 2)).1 = .ok () := by rfl
  have unseen : (Site.run LastMoment.task (LastMoment.busy 3)).1 = .error (.timedOut "task completion" "copy") := by rfl
  have late : (Site.exchanges LastMoment.task (LastMoment.busy 3)).elapsed = 1500 := by rfl
  have gone : (Site.run LastMoment.pods LastMoment.leaving).1.isOk = true := by decide +kernel
  refine ⟨?_, by rfl, ?_, ?_, by decide +kernel⟩
  · exact (task.succeeds_iff () _).mp (seen ▸ run 2)
  · rcases (task.fails_iff _ _).mp (unseen ▸ run 3) with ⟨waited, early | ⟨-, undecided⟩, made⟩ | ⟨same, -⟩
    · obtain ⟨n, inTime, elapsed⟩ := early.elapsed (Fleet.taskDone_looks "r1" "z1" "copy")
      have all : waited.elapsed = 1500 := by rw [← late, made, History.elapsed_append]; rfl
      omega
    · exact ⟨waited, undecided, made⟩
    · cases same
  · obtain ⟨_, t, ended⟩ := Site.run_of_isOk gone
    have run := Site.runsTo_exchanges LastMoment.pods LastMoment.leaving
    rw [ended] at run
    exact ((pods "default" ["data"]).succeeds_iff () _).mp run

namespace LastMoment

/-- As many seconds as an unsigned number of 64 bits can tell, in milliseconds. -/
def endless : Nat := (UInt64.size - 1) * 1000

end LastMoment

/-- A task has already stopped well, which the first look would find. But the clock cannot show the time at which the
wait for it would be over, and the wait is broken off before it has looked. -/
theorem awaitTask_breaks_off :
    (Site.run (Fleet.taskDone "r1" "z1" "copy") (LastMoment.busy 0)).1 = .ok (some ()) ∧
      Site.run (Fleet.awaitTask "r1" "z1" "copy" LastMoment.endless 500) (LastMoment.busy 0) =
        (.error .clockOverflow, LastMoment.busy 0) ∧
      Site.exchanges (Fleet.awaitTask "r1" "z1" "copy" LastMoment.endless 500) (LastMoment.busy 0) =
        [⟨.deadline LastMoment.endless, false⟩] := by
  have unshown : ¬(LastMoment.busy 0).clock + LastMoment.endless < Site.clockEnd := by decide
  refine ⟨rfl, rfl, ?_⟩
  rcases runsTo_deadline_bind.mp (Site.runsTo_exchanges _ (LastMoment.busy 0)) with ⟨waited, -, made⟩ | ⟨-, made⟩
  · exact absurd ((begun_exchanges_iff _).mp ⟨waited, trivial, made⟩) unshown
  · exact made

end Maintenance

end ClusterVolumes
