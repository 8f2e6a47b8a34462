import ClusterVolumes.Proofs.Maintenance.MoveSteps
import ClusterVolumes.Proofs.Volume.HandleText

/-!
# The order of a migration

A migration looks at a bound claim, has its region drained, and relocates the disk of the claim. Up to the move it makes
preparing calls only, and so it does after it; in between it makes the steps of the one move that the look at the claim
has opened (`migrate_ensures`).

A record that is made anew is the one that was read last (`Recreates`). Of the records at a site a migration writes only
such as it has read, under another policy or with another handle and zone (`descending_step`). So a record has a source
if the first one of its name had one, and the handle that is written in the end is the one that was read but for the
zone (`migrate_ordered`). If somebody else takes the source from the record meanwhile, the new record has none either,
and a zone with a slash in it is not read back from a handle: `migrate_misaddresses`.
-/

namespace ClusterVolumes

open Orchestrator
open Service

namespace Maintenance

/-- A call that changes disks or records is one of a move that the look at the claim opened, from a storage that has a
name, and it is due. -/
def Ordered (m : Maintenance) (space claim target : String) (past : History) (call : Call) : Prop :=
  call.isMoving = true → ∃ w : Move, w.Opened m.driver space claim past ∧ w.target = target ∧
    w.source.zone ≠ w.target ∧ w.Due past call ∧ past.AllSucceeded ∧ w.source.storage ≠ ""

/-- The record of the volume that the look at a claim found was just deleted, after it was read last, and this is the
one to make instead.
- `renews`: it is what was read, put under another handle and zone;
- `handle`: if what was read has a source, it has the text of the handle that the look found but for the zone, which is
  the target;
- `readBack`: and unless the target holds a slash, just this handle is read from that text. -/
structure Recreates (m : Maintenance) (space claim target : String) (past : History) (w : Move) (v read : VolumeRecord) :
    Prop where
  opened : w.Opened m.driver space claim past
  aimed : w.target = target
  renews : ∃ policy earlier, past = Exchange.orchestrator (.deleteVolume w.name) (.ok ()) ::
      Exchange.orchestrator (.volume w.name) (.ok (some read)) :: earlier ∧ v = read.relocated w.goal target policy
  handle : (v.spec.bind (·.source)).map (·.volumeHandle) = (read.spec.bind (·.source)).map fun _ => w.goal.text
  readBack : '/' ∉ target.toList → VolumeHandle.parseLegacy w.goal.text = .ok w.goal

/-- How a migration ends well: the disk was there, or its source was deleted. -/
def EndsWell (m : Maintenance) (space claim target : String) (past : History) : Prop :=
  ∃ w : Move, w.Opened m.driver space claim past ∧ w.target = target ∧
    (w.source.zone = target ∨ w.SourceDeleted past)

/-- How a migration fails: if it does not speak of a source that remains, no disk was deleted. -/
def EndsBadly (target : String) (f : Failure) (past : History) : Prop :=
  (∀ source cause, f ≠ sourceRemains source target cause) → past.Without Call.deletesDisk

section

variable {m : Maintenance} {space claim target : String}

/-- Preparing calls disturb nothing that a longer history keeps. -/
theorem undisturbed_of_later {K : History → Prop}
    (hK : ∀ past e, e.request.isPreparing = true → K past → K (e :: past)) :
    Undisturbed anyAnswers (m.Ordered space claim target) K where
  may := fun _ _ hc _ hm => absurd hm (by simp [Call.isMoving_of_isPreparing hc])
  keeps := by
    rintro s call x _ hc hs rfl
    exact hK s ⟨call, x⟩ hc hs

theorem undisturbed_outcome (o : Except Failure Unit) : Undisturbed anyAnswers (m.Ordered space claim target)
    (onOutcome (fun _ => m.EndsWell space claim target) (EndsBadly target) o) := by
  refine undisturbed_of_later fun past e hc h => ?_
  cases o with
  | error f =>
    have hd : e.request.deletesDisk = false := Call.deletesDisk_eq_false (Call.changesDisks_of_isPreparing hc)
    exact fun hf => History.without_cons hd (h hf)
  | ok a =>
    obtain ⟨w, ho, ht, hd⟩ := h
    exact ⟨w, ho.later e, ht, hd.imp_right fun h => List.mem_cons_of_mem _ h⟩

/-- The move of a bound claim is ordered, once the look at the claim opened it. -/
theorem relocate_ordered {bound : BoundClaim} (hz : bound.handle.zone ≠ target) (hs : bound.handle.storage ≠ "")
    (timeout : Nat) {past : History} (hc : past.Calm) (ho : Move.Opened ⟨bound.handle, bound.volume.name, target⟩ m.driver space claim past) :
    Ensures anyAnswers (m.Ordered space claim target) (m.relocate bound target timeout)
      (fun _ t => m.EndsWell space claim target t) (EndsBadly target) past := by
  let w : Move := ⟨bound.handle, bound.volume.name, target⟩
  have steps := w.relocate_ensures m bound timeout rfl rfl hc
  have kept : ∀ s r x t, w.Opened m.driver space claim s → w.InTurn s r → anyAnswers s r x t →
      w.Opened m.driver space claim t := by
    rintro s r x _ hs - rfl
    exact hs.later _
  refine (steps.and_invariant kept ho).mono (fun past call h hm => ?_) (fun _ t h => ?_) fun f t h hf => ?_
  · obtain ⟨due, succeeded⟩ := h.1 hm
    exact ⟨w, h.2, rfl, hz, due, succeeded, hs⟩
  · exact ⟨w, h.2, rfl, .inr h.1⟩
  · exact h.1 fun cause => hf w.source cause

end

/-- Every call of a migration that changes disks or records is due. -/
theorem migrate_ensures (m : Maintenance) (space claim target : String) (force : Bool) (timeout : Nat) :
    Ensures anyAnswers (m.Ordered space claim target) (m.migrate space claim target force timeout)
      (fun _ t => m.EndsWell space claim target t) (EndsBadly target) [] := by
  have still : Undisturbed anyAnswers (m.Ordered space claim target) (History.Without Call.changesDisks) :=
    undisturbed_of_later fun past e hc h => History.without_cons (Call.changesDisks_of_isPreparing hc) h
  unfold Maintenance.migrate
  refine ensures_bind.mpr ((still.ensures Program.remembers_anyAnswers
    (m.boundClaim_ensures space claim History.allSucceeded_nil) History.without_nil).post ?_
    fun f t ht _ => ht.2.deletes)
  rintro bound t ⟨⟨hok, name, told, ht⟩, hstill⟩
  have opened : Move.Opened ⟨bound.handle, bound.volume.name, target⟩ m.driver space claim t :=
    ⟨[], bound, name, ht, told, rfl, rfl⟩
  simp only
  split
  · exact fun _ => hstill.deletes
  split
  · rename_i hz
    exact ⟨_, opened, rfl, .inl hz⟩
  rename_i hz
  split
  · exact fun _ => hstill.deletes
  rename_i hs
  have named : bound.handle.storage ≠ "" := fun none => hs (String.isEmpty_iff.mpr none)
  refine ensures_bind.mpr (ensures_bind.mpr (ensures_ofExcept.mpr ?_))
  cases m.fleet.isPrivileged bound.handle.region with
  | error f => exact fun _ => hstill.deletes
  | ok privileged =>
    simp only [onOutcome]
    split
    · refine ensures_bind.mpr (ensures_bind.mpr (ask_cluster (still.may _ _ rfl hstill) (fun members => ?_)
        fun f _ => (History.without_cons rfl hstill).deletes))
      simp only [ensures_pure]
      split
      · refine m.whileDrained_ensures (K := fun t : History => t.Without Call.changesDisks ∧
          Move.Opened ⟨bound.handle, bound.volume.name, target⟩ m.driver space claim t) Program.remembers_anyAnswers
          space [claim] force ?_ undisturbed_outcome (fun f t ht _ => ht.1.deletes) (fun u hok hu => ?_)
          (History.allSucceeded_cons rfl hok) ⟨History.without_cons rfl hstill, opened.later _⟩
        · refine undisturbed_of_later fun past e hc h => ?_
          exact ⟨History.without_cons (Call.changesDisks_of_isPreparing hc) h.1, h.2.later e⟩
        · exact relocate_ordered hz named timeout ⟨hok, hu.1⟩ hu.2
      · exact fun _ => (History.without_cons rfl hstill).deletes
    · exact fun _ => hstill.deletes

/-! ## Records at a site -/

/-- The record has the name under which the site had one, and a source if that had one. -/
def Descends (s : Site) (name : String) (v : VolumeRecord) : Prop :=
  v.name = name ∧ ∃ first, s.orchestrator.volumes name = some first ∧ v.hasSource = first.hasSource

/-- All records that are there or were read descend from those with which the site began. -/
structure Descending (s : Site) (t : Site × History) : Prop where
  there : ∀ name v, t.1.orchestrator.volumes name = some v → Descends s name v
  read : ∀ name v, Exchange.orchestrator (.volume name) (.ok (some v)) ∈ t.2 → Descends s name v

theorem descends_withPolicy {s : Site} {name policy : String} {v : VolumeRecord} (h : Descends s name v) :
    Descends s (v.withPolicy policy).name (v.withPolicy policy) := by
  obtain ⟨rfl, first, hf, hs⟩ := h
  exact ⟨rfl, first, hf, by rw [← hs]; cases hv : v.spec <;> simp [VolumeRecord.withPolicy, VolumeRecord.hasSource, hv]⟩

theorem descends_relocated {s : Site} {name zone policy : String} {handle : VolumeHandle} {v : VolumeRecord}
    (h : Descends s name v) : Descends s (v.relocated handle zone policy).name (v.relocated handle zone policy) := by
  obtain ⟨rfl, first, hf, hs⟩ := h
  refine ⟨rfl, first, hf, ?_⟩
  rw [← hs]
  cases hv : v.spec with
  | none => simp [VolumeRecord.relocated, VolumeRecord.hasSource, hv]
  | some spec => simp [VolumeRecord.relocated, VolumeSpec.relocated, VolumeRecord.hasSource, hv]

theorem descends_answer {s : Site} {o : Site.OrchestratorState} {r : Request}
    (h : ∀ name v, o.volumes name = some v → Descends s name v)
    (hr : ∀ v, r = .createVolume v ∨ r = .replaceVolume v → Descends s v.name v) :
    ∀ name v, (o.answer r).2.volumes name = some v → Descends s name v := by
  refine Site.OrchestratorState.volumes_answer (fun name v v' e hv => ?_) hr h
  obtain ⟨rfl, first, hf, hs⟩ := hv
  refine ⟨?_, first, hf, ?_⟩
  · rw [← v'.name_withoutClaim, ← e, v.name_withoutClaim]
  · rw [← v'.hasSource_withoutClaim, ← e, v.hasSource_withoutClaim, hs]

/-- The calls of a migration keep all records descending. -/
theorem descending_step {m : Maintenance} {space claim target : String} {s : Site} {t u : Site × History} {call : Call}
    {x : call.Answer} (h : Descending s t) (hc : m.Ordered space claim target t.2 call)
    (e : Site.recorded t call x u) : Descending s u := by
  obtain ⟨hx, hu⟩ := Site.recorded_eq.mp e
  have written : ∀ v, call = .orchestrator (.createVolume v) ∨ call = .orchestrator (.replaceVolume v) →
      Descends s v.name v := by
    rintro v (rfl | rfl)
    · obtain ⟨w, -, -, -, ⟨-, renews⟩, -⟩ := hc rfl
      obtain ⟨read, policy, hread, rfl⟩ := renews.read
      exact descends_relocated (h.read _ _ hread)
    · obtain ⟨w, -, -, -, ⟨name, read, policy, hread, rfl⟩, -⟩ := hc rfl
      exact descends_withPolicy (h.read _ _ hread)
  constructor
  · refine Site.answer_keeps_orchestrator (K := fun o => ∀ name v, o.volumes name = some v → Descends s name v) hx
      h.there ?_
    rintro r rfl
    exact descends_answer h.there fun v hv => written v (hv.imp (congrArg _) (congrArg _))
  · intro name v hv
    rw [hu] at hv
    rcases List.mem_cons.mp hv with hv | hv
    · cases hv
      exact h.there name v (Except.ok.inj (Site.answer_orchestrator_ok hx).1)
    · exact h.read name v hv

/-- A volume whose move was opened had a source, so whatever is read under its name has one. -/
theorem Descending.hasSource {m : Maintenance} {space claim : String} {s : Site} {t : Site × History} {w : Move}
    {read : VolumeRecord} (h : Descending s t) (hopened : w.Opened m.driver space claim t.2)
    (hread : Exchange.orchestrator (.volume w.name) (.ok (some read)) ∈ t.2) : read.hasSource = true := by
  obtain ⟨-, first, hfirst, hsource⟩ := h.read _ _ hread
  obtain ⟨later, bound, name, hpast, told, -, hwname⟩ := hopened
  obtain ⟨hn, first', hfirst', hsource'⟩ := h.read name bound.volume (by rw [hpast]; simp)
  obtain ⟨source, hof, -⟩ := told.parsed
  have bound_has : bound.volume.hasSource = true := by
    obtain ⟨hs, -⟩ := Option.filter_eq_some_iff.mp hof
    simp [VolumeRecord.hasSource, hs]
  have same : first' = first := by
    rw [← hn, ← hwname, hfirst] at hfirst'
    exact (Option.some.inj hfirst').symm
  rw [hsource, ← same, ← hsource', bound_has]

/-- A record that is put under a handle names the handle, if it has a source. -/
theorem handle_relocated (handle : VolumeHandle) (zone policy : String) (v : VolumeRecord) :
    ((v.relocated handle zone policy).spec.bind (·.source)).map (·.volumeHandle) =
      (v.spec.bind (·.source)).map fun _ => handle.text := by
  cases hspec : v.spec with
  | none => simp [VolumeRecord.relocated, hspec]
  | some spec => cases hsource : spec.source <;> simp [VolumeRecord.relocated, VolumeSpec.relocated, hspec, hsource]

/-- What is made in order is the record that was read last, under another handle and zone. -/
theorem Ordered.recreates {m : Maintenance} {space claim target : String} {past : History} {v : VolumeRecord}
    (h : m.Ordered space claim target past (.orchestrator (.createVolume v))) :
    ∃ w read, m.Recreates space claim target past w v read := by
  obtain ⟨w, opened, rfl, -, ⟨-, read, policy, earlier, hpast, rfl⟩, -, named⟩ := h rfl
  refine ⟨w, read, opened, rfl, ⟨policy, earlier, hpast, rfl⟩, handle_relocated _ _ _ _, fun free => ?_⟩
  obtain ⟨_, bound, _, -, told, hsource, -⟩ := opened
  obtain ⟨source, -, parsed⟩ := told.parsed
  exact VolumeHandle.parseLegacy_moved (hsource ▸ parsed) named free

/-- **Migrations keep their order.** Whatever the collaborators answer, a call that changes disks or records is made
only in its turn: one copy of a disk that was found free, the record of the volume deleted once the copy is listed, and
made anew, and then one deletion of the source, all calls before it having succeeded. The new record is the one that was
read last, under the handle that the look at the claim found but for the zone. At a site that keeps volumes under their
names it has this handle. -/
theorem migrate_ordered (m : Maintenance) (space claim target : String) (force : Bool) (timeout : Nat) :
    (∀ {σ : Type} (h : Program.Handler collaborators σ) (s : σ),
      (m.migrate space claim target force timeout).run.Always (Program.recording h)
        (fun t call => m.Ordered space claim target t.2 call ∧ ∀ v, call = .orchestrator (.createVolume v) →
          ∃ w read, m.Recreates space claim target t.2 w v read) (s, [])) ∧
    ∀ s : Site, s.orchestrator.Named →
      (m.migrate space claim target force timeout).run.Always (Program.recording (I := collaborators) Site.answer)
        (fun t call => ∀ v, call = .orchestrator (.createVolume v) → ∃ w : Move,
          w.Opened m.driver space claim t.2 ∧ w.target = target ∧ v.name = w.name ∧
            (v.spec.bind (·.source)).map (·.volumeHandle) = some w.goal.text) (s, []) := by
  have steps := m.migrate_ensures space claim target force timeout
  constructor
  · intro σ h s
    have always : Ensures anyAnswers (fun past call => m.Ordered space claim target past call ∧
          ∀ v, call = .orchestrator (.createVolume v) → ∃ w read, m.Recreates space claim target past w v read)
        (m.migrate space claim target force timeout) (fun _ _ => True) (fun _ _ => True) [] :=
      steps.mono (fun past call ordered => ⟨ordered, fun v create => (create ▸ ordered).recreates⟩)
        (fun _ _ _ => trivial) fun _ _ _ => trivial
    have run := Ensures.remembered (Program.remembers_recording h) (s := (s, [])) always
    exact (Program.ensures_ofHandler.mp run).1
  · intro s hnamed
    have atSite := (Ensures.remembered Site.remembers_recorded (s := (s, [])) steps).and_invariant
      (K := Descending s) (fun _ _ _ _ h hc e => descending_step h hc e)
      ⟨fun name v hv => ⟨hnamed name v hv, v, hv, rfl⟩, fun _ _ hv => nomatch hv⟩
    refine (Program.ensures_ofHandler.mp (Ensures.mono atSite (fun t call h v hv => ?_) (fun _ _ h => h)
      fun _ _ h => h)).1
    subst hv
    obtain ⟨w, read, recreates⟩ := h.1.recreates
    obtain ⟨policy, earlier, hpast, rfl⟩ := recreates.renews
    have hread : Exchange.orchestrator (.volume w.name) (.ok (some read)) ∈ t.2 := by
      rw [hpast]
      simp
    refine ⟨w, recreates.opened, recreates.aimed, (h.2.read _ _ hread).1, ?_⟩
    obtain ⟨source, hsource⟩ := Option.isSome_iff_exists.mp (h.2.hasSource recreates.opened hread)
    rw [recreates.handle, hsource]
    rfl

set_option maxRecDepth 4000 in
/-- The disk of a claim is moved, and its volume recorded anew, with all of it in order. -/
theorem migrate_ordered_two_nodes :
    (TwoNodes.site false).orchestrator.Named ∧
      ((Site.run (TwoNodes.driver.migrate "default" "data" "z2" false 10000) (TwoNodes.site false)).2.log.any
        Call.deletesDisk) = true ∧
      (TwoNodes.driver.migrate "default" "data" "z2" false 10000).run.Always
        (Program.recording (I := collaborators) Site.answer)
        (fun t call => ∀ v, call = .orchestrator (.createVolume v) → ∃ w : Move,
          w.Opened "d" "default" "data" t.2 ∧ w.target = "z2" ∧ v.name = w.name ∧
            (v.spec.bind (·.source)).map (·.volumeHandle) = some w.goal.text) (TwoNodes.site false, []) :=
  ⟨TwoNodes.named false, by decide +kernel,
    (migrate_ordered TwoNodes.driver "default" "data" "z2" false 10000).2 _ (TwoNodes.named false)⟩

namespace TwoNodes

/-- The site, but once a copy of the disk was made the record of the volume is told without a source. -/
def forgetful : Program.Handler collaborators Site :=
  fun (call : Call) s =>
    match call with
    | .orchestrator (.volume name) =>
      if s.log.any Call.changesDisks then (.ok (some { volume with spec := some {} }), s)
      else Site.answer (.orchestrator (.volume name)) s
    | call => Site.answer call s

/-- The handle of a volume on a storage whose name is a number. -/
def numbered : VolumeHandle :=
  ⟨"r1", "z1", "9999", "vm-9999-pvc-1"⟩

/-- The region with the volume there, and with a node whose name holds a slash. -/
def slashed : Site where
  clusters := Keyed.empty.put "r1" (some
    { members := [{ kind := "node", name := "z2/ceph", online := true }]
      storages := [⟨"z1", "9999", {}⟩, ⟨"z2/ceph", "9999", {}⟩]
      disks := [⟨"z1", "9999", { volid := numbered.volid }⟩] })
  orchestrator :=
    { volumes := Keyed.empty.put "pvc-1" (some
        { volume with spec := some { source := some { driver := "d", volumeHandle := numbered.text } } })
      claims := Keyed.empty.put ("default", "data") (some claim) }

/-- The outcome of a migration where the record is told so, the site in the end, and the exchanges. -/
def forgotten : Except Failure Unit × Site × History :=
  (driver.migrate "default" "data" "z2" false 10000).run.run (Program.recording forgetful) (site false, [])

/-- The outcome of a migration to the node whose name holds a slash, and the site in the end. -/
def misled : Except Failure Unit × Site :=
  Site.run (driver.migrate "default" "data" "z2/ceph" false 10000) slashed

end TwoNodes

/-- The source of a moved disk is deleted although the new record has no source, because the record that was read last
had none; and it is deleted although another handle is read from the new record than that of the copy, because the
target holds a slash. -/
theorem migrate_misaddresses :
    (TwoNodes.forgotten.1.isOk = true ∧
      (TwoNodes.forgotten.2.1.orchestrator.volumes "pvc-1").map (·.hasSource) = some false ∧
      TwoNodes.forgotten.2.2.any (fun e => Call.deletesDisk e.request) = true) ∧
    TwoNodes.misled.1.isOk = true ∧
      ((TwoNodes.misled.2.orchestrator.volumes "pvc-1").bind (·.sourceOf? "d")).map (·.volumeHandle) =
        some "r1/z2/ceph/9999/vm-9999-pvc-1" ∧
      (VolumeHandle.parseLegacy "r1/z2/ceph/9999/vm-9999-pvc-1").toOption =
        some ⟨"r1", "z2", "ceph", "9999/vm-9999-pvc-1"⟩ ∧
      TwoNodes.misled.2.log.any Call.deletesDisk = true := by
  refine ⟨⟨?_, ?_, ?_⟩, ?_, ?_, ?_, ?_⟩ <;> decide +kernel

end Maintenance

end ClusterVolumes
