import ClusterVolumes.Proofs.Maintenance.Footprints
import ClusterVolumes.Proofs.Maintenance.Reclaim

/-!
# Volumes that other claims have

A claim names a volume and a volume names the claim that has it, and only if both do so they are bound. A workflow goes
by the first of the two alone: it takes the volume that a given claim asks for, whoever has it
(`rename_takes_foreign`). Apart from that it leaves the volumes of others (`foreign_volumes_left`): every record that it
writes is one that it has read under its name, and the names are those for which the given claims asked when it began.

`Leaving` is what is kept on the way, the record of one volume as it was. Calls that write another record or none keep
it, and so does the binding of new claims, because it takes no volume from a claim (`volumes_bind_claimed`).
-/

namespace ClusterVolumes

open Orchestrator
open Service

/-- The volume whose record a call writes. -/
def Call.writtenVolume? : Call → Option String
  | .orchestrator (.createVolume v) | .orchestrator (.replaceVolume v) => some v.name
  | .orchestrator (.deleteVolume name) => some name
  | _ => none

/-- A call that stays with other subjects writes no volume. -/
theorem Call.writtenVolume?_of_isWithin {c : Call} {subjects : List Subject} (hc : c.isWithin subjects = true)
    (hv : Subject.volumes ∉ subjects) : c.writtenVolume? = none := by
  cases c with
  | orchestrator r =>
    cases r with
    | createVolume v => exact absurd (List.contains_iff_mem.mp hc) hv
    | replaceVolume v => exact absurd (List.contains_iff_mem.mp hc) hv
    | deleteVolume name => exact absurd (List.contains_iff_mem.mp hc) hv
    | _ => rfl
  | _ => rfl

theorem Call.writtenVolume?_of_isPreparing {c : Call} (h : c.isPreparing = true) : c.writtenVolume? = none := by
  cases c with
  | orchestrator r => cases r <;> first | rfl | cases h
  | _ => rfl

/-- The claim that a volume names as the one that has it. -/
def Orchestrator.VolumeRecord.claimRef? (v : VolumeRecord) : Option ClaimRef :=
  v.spec.bind (·.claimRef)

/-! ## One volume among the others -/

namespace Site.OrchestratorState

variable {o : OrchestratorState} {n : String} {v : VolumeRecord}

/-- Binding leaves a volume that a claim has. -/
theorem volumes_bind_claimed (space name : String) (hv : o.volumes n = some v) (hc : v.claimRef?.isSome = true) :
    (o.bind space name).volumes n = some v := by
  unfold bind
  split
  · exact hv
  · simp only
    split
    · exact hv
    · rename_i w record hw
      split
      · exact hv
      · rename_i hfree
        refine (Keyed.put_of_ne _ _ ?_).trans hv
        rintro rfl
        obtain ⟨name, -, hname⟩ := Option.bind_eq_some_iff.mp hw
        obtain ⟨r, hr, e⟩ := Option.map_eq_some_iff.mp hname
        obtain ⟨rfl, rfl⟩ := Prod.mk.inj e
        obtain rfl : v = r := Option.some.inj (hv.symm.trans hr)
        refine hfree ?_
        cases hs : v.spec with
        | none => simp [VolumeRecord.claimRef?, hs] at hc
        | some spec => simpa [VolumeRecord.claimRef?, hs] using hc

/-- A request that does not write the record of a volume leaves it, if a claim has the volume. -/
theorem volume_answer {r : Request} (hr : (Call.orchestrator r).writtenVolume? ≠ some n) (hv : o.volumes n = some v)
    (hc : v.claimRef?.isSome = true) : (o.answer r).2.volumes n = some v := by
  have unwritten : r.writesVolume = false → (∀ node b, r ≠ .setUnschedulable node b) →
      (o.answer r).2.volumes n = some v := fun hw hm =>
    keeps_answer (K := fun _ volumes => volumes n = some v) (fun o space name h => volumes_bind_claimed space name h hc)
      hw hm hv
  cases r with
  | createVolume w =>
    have hn : n ≠ w.name := fun e => hr (congrArg some e.symm)
    simp only [answer]
    split
    · exact hv
    · exact (Keyed.put_of_ne _ _ hn).trans hv
  | replaceVolume w =>
    have hn : n ≠ w.name := fun e => hr (congrArg some e.symm)
    simp only [answer]
    split
    · exact (Keyed.put_of_ne _ _ hn).trans hv
    · exact hv
  | deleteVolume name =>
    have hn : n ≠ name := fun e => hr (congrArg some e.symm)
    exact (Keyed.put_of_ne _ _ hn).trans hv
  | setUnschedulable name b => simp only [answer]; split <;> exact hv
  | _ => exact unwritten rfl fun _ _ e => by cases e

end Site.OrchestratorState

namespace Maintenance

/-- Volumes are kept under their names, and one has the record that it had. -/
structure Leaving (n : String) (v : VolumeRecord) (t : Site × History) : Prop where
  named : t.1.orchestrator.Named
  same : t.1.orchestrator.volumes n = some v

/-- The call does not write the record of a volume, which is what it was. -/
def Spares (n : String) (v : VolumeRecord) (t : Site × History) (call : Call) : Prop :=
  call.writtenVolume? ≠ some n ∧ t.1.orchestrator.volumes n = some v

section

variable {n name : String} {v : VolumeRecord} {t u : Site × History} {call : Call} {x : call.Answer}

theorem Leaving.step (hc : v.claimRef?.isSome = true) (h : Leaving n v t) (hcall : call.writtenVolume? ≠ some n)
    (e : Site.recorded t call x u) : Leaving n v u where
  named := named_step h.named e
  same := by
    refine Site.answer_keeps_orchestrator (K := fun o => o.volumes n = some v) (Site.recorded_eq.mp e).1 h.same ?_
    rintro r rfl
    exact Site.OrchestratorState.volume_answer hcall h.same hc

variable (hc : v.claimRef?.isSome = true)
include hc

theorem undisturbed_leaving : Undisturbed Site.recorded (Spares n v) (Leaving n v) where
  may := fun _ _ hcall h => ⟨by simp [Call.writtenVolume?_of_isPreparing hcall], h.same⟩
  keeps := fun _ _ _ _ hcall h e => h.step hc (by simp [Call.writtenVolume?_of_isPreparing hcall]) e

/-! ## The parts of the work -/

/-- A service about other subjects leaves the volume. -/
theorem within_spares {α : Type} {service : Service α} {subjects : List Subject} (hs : service.Within subjects)
    (hv : Subject.volumes ∉ subjects) (h : Leaving n v t) :
    Ensures Site.recorded (Spares n v) service (fun _ u => Leaving n v u) (fun _ u => Leaving n v u) t := by
  have unwritten : ∀ call : Call, call.isWithin subjects = true → call.writtenVolume? ≠ some n := fun call hcall => by
    simp [Call.writtenVolume?_of_isWithin hcall hv]
  refine hs.ensures (K := Leaving n v) Site.remembers_recorded ?_ ?_ h
  · intro t call hcall ht
    exact ⟨unwritten call hcall, ht.same⟩
  · intro t call x u hcall ht e
    exact ht.step hc (unwritten call hcall) e

/-- One call that writes no record, or that of another volume, leaves the volume. -/
theorem orchestrator_spares {r : Request} (hr : (Call.orchestrator r).writtenVolume? ≠ some n) (h : Leaving n v t) :
    Ensures Site.recorded (Spares n v) (Service.orchestrator r) (fun _ u => Leaving n v u) (fun _ u => Leaving n v u)
      t := by
  refine ensures_orchestrator.mpr ⟨⟨hr, h.same⟩, fun x u e => ?_⟩
  have hu := h.step hc hr e
  cases x <;> exact hu

/-- A record that is read is kept under its name. -/
theorem volumeRecord_spares (name : String) (h : Leaving n v t) :
    Ensures Site.recorded (Spares n v) (volumeRecord name) (fun w u => w.name = name ∧ Leaving n v u)
      (fun _ u => Leaving n v u) t := by
  have read : (Call.orchestrator (.volume name)).writtenVolume? ≠ some n := fun e => by cases e
  refine volumeRecord_atSite name ⟨read, h.same⟩ (fun w u y hw _ e => ?_) fun f u y _ e => h.step hc read e
  exact ⟨h.named name w hw, h.step hc read e⟩

theorem setPolicy_spares (hn : name ≠ n) (policy : String) (h : Leaving n v t) :
    Ensures Site.recorded (Spares n v) (setPolicy name policy) (fun _ u => Leaving n v u) (fun _ u => Leaving n v u)
      t := by
  unfold setPolicy
  refine ensures_bind.mpr ((volumeRecord_spares hc name h).post (fun w u hu => ?_) fun _ _ h => h)
  simp only
  split
  · exact hu.2
  · have other : w.name ≠ n := hu.1.symm ▸ hn
    exact ensures_bind.mpr (orchestrator_spares hc (fun e => other (Option.some.inj e)) hu.2)

theorem retain_spares (hn : name ≠ n) (h : Leaving n v t) :
    Ensures Site.recorded (Spares n v) (retain name) (fun _ u => Leaving n v u) (fun _ u => Leaving n v u) t := by
  unfold retain
  refine ensures_bind.mpr ((volumeRecord_spares hc name h).post (fun w u hu => ?_) fun _ _ h => h)
  simp only
  split
  · exact hu.2
  · exact ensures_bind.mpr (setPolicy_spares hc hn retained hu.2)

theorem unclaim_spares (hn : name ≠ n) (h : Leaving n v t) :
    Ensures Site.recorded (Spares n v) (unclaim name) (fun _ u => Leaving n v u) (fun _ u => Leaving n v u) t := by
  unfold unclaim
  refine ensures_bind.mpr ((volumeRecord_spares hc name h).post (fun w u hu => ?_) fun _ _ h => h)
  have other : w.name ≠ n := hu.1.symm ▸ hn
  exact ensures_bind.mpr (orchestrator_spares hc (fun e => other (Option.some.inj e)) hu.2)

theorem recordAnew_spares (hn : name ≠ n) (handle : VolumeHandle) (zone : String) (h : Leaving n v t) :
    Ensures Site.recorded (Spares n v) (recordAnew name handle zone) (fun _ u => Leaving n v u)
      (fun _ u => Leaving n v u) t := by
  unfold recordAnew
  refine ensures_bind.mpr ((retain_spares hc hn h).post (fun policy u hu => ?_) fun _ _ h => h)
  refine ensures_bind.mpr ((volumeRecord_spares hc name hu).post (fun w u hu => ?_) fun _ _ h => h)
  have deleted : (Call.orchestrator (.deleteVolume name)).writtenVolume? ≠ some n := fun e => hn (Option.some.inj e)
  refine ensures_bind.mpr ((orchestrator_spares hc deleted hu.2).post (fun _ y hy => ?_) fun _ _ h => h)
  have other : w.name ≠ n := hu.1.symm ▸ hn
  exact ensures_bind.mpr (orchestrator_spares hc (fun e => other (Option.some.inj e)) hy)

/-- Moving the disk of a volume leaves the other volumes. -/
theorem relocate_spares (m : Maintenance) {bound : BoundClaim} (hn : bound.volume.name ≠ n) (target : String)
    (timeout : Nat) (h : Leaving n v t) :
    Ensures Site.recorded (Spares n v) (m.relocate bound target timeout) (fun _ u => Leaving n v u)
      (fun _ u => Leaving n v u) t := by
  unfold relocate
  refine ensures_bind.mpr ((within_spares hc (m.awaitDetached_asks bound.handle) nofun h).post (fun _ u hu => ?_)
    fun _ _ h => h)
  refine ensures_bind.mpr ((within_spares hc (m.copyDisk_asks bound.handle target timeout) nofun hu).post
    (fun _ u hu => ?_) fun _ _ h => h)
  refine ensures_bind.mpr ((recordAnew_spares hc hn _ target hu).post (fun _ u hu => ?_) fun _ _ h => h)
  exact within_spares hc (cluster_within bound.handle.region _ []).rewording nofun hu

/-- Rebuilding claims leaves the volumes that are not in the plan. -/
theorem rebind_spares (m : Maintenance) (space : String) {plan : List Rebinding}
    (hn : ∀ r ∈ plan, r.volume.name ≠ n) (h : Leaving n v t) :
    Ensures Site.recorded (Spares n v) (m.rebind space plan) (fun _ u => Leaving n v u) (fun _ u => Leaving n v u)
      t := by
  have each : ∀ {f : Rebinding → Service PUnit} {u : Site × History}, (∀ r ∈ plan, ∀ u, Leaving n v u →
      Ensures Site.recorded (Spares n v) (f r) (fun _ u => Leaving n v u) (fun _ u => Leaving n v u) u) →
      Leaving n v u → Ensures Site.recorded (Spares n v) (plan.forM f) (fun _ u => Leaving n v u)
        (fun _ u => Leaving n v u) u := fun hf hu =>
    Ensures.forM (fun _ => Leaving n v) plan (fun _ r _ u hplan hu => hf r (by simp [hplan]) u hu) (fun _ h => h) hu
  unfold rebind
  refine ensures_bind.mpr (Ensures.mapM (fun _ _ => Leaving n v) plan ?_ ?_ h)
  · intro _ r _ _ u hplan hu
    exact retain_spares hc (hn r (by simp [hplan])) hu
  intro policies u hu
  have deleted := each (fun r _ u hu => orchestrator_spares hc (r := .deleteClaim space r.claim.name) nofun hu) hu
  refine ensures_bind.mpr (deleted.post (fun _ u hu => ?_) fun _ _ h => h)
  have unclaimed := each (fun r hr u hu => unclaim_spares hc (hn r hr) hu) hu
  refine ensures_bind.mpr (unclaimed.post (fun _ u hu => ?_) fun _ _ h => h)
  refine ensures_bind.mpr ((each (fun r _ u hu => ensures_bind.mpr (orchestrator_spares hc (fun e => by cases e) hu))
    hu).post (fun _ u hu => ?_) fun _ _ h => h)
  have bound := each (fun r _ u hu => within_spares hc (m.awaitBound_asks space r.name) nofun hu) hu
  refine ensures_bind.mpr (bound.post (fun _ u hu => ?_) fun _ _ h => h)
  refine Ensures.forM (fun _ => Leaving n v) _ (fun before a after u hzip hu => ?_) (fun _ h => h) hu
  obtain ⟨r, policy⟩ := a
  have hmem : (r, policy) ∈ plan.zip policies := by simp [hzip]
  have hr : r ∈ plan := (List.of_mem_zip hmem).1
  exact setPolicy_spares hc (hn r hr) policy hu

/-- Work that leaves a volume leaves it while claims are drained. -/
theorem whileDrained_spares (m : Maintenance) (space : String) (claims : List String) (force : Bool)
    {work : Service Unit} (run : ∀ u, Leaving n v u →
      Ensures Site.recorded (Spares n v) work (fun _ u => Leaving n v u) (fun _ u => Leaving n v u) u)
    (h : Leaving n v t) :
    Ensures Site.recorded (Spares n v) (m.whileDrained space claims force work) (fun _ u => Leaving n v u)
      (fun _ u => Leaving n v u) t := by
  have release : ∀ (c : Cordon) (outcome : Except Failure Unit) (u : Site × History), Leaving n v u →
      Ensures Site.recorded (Spares n v) (c.release >>= fun _ => Service.ofExcept outcome)
        (fun _ u => Leaving n v u) (fun _ u => Leaving n v u) u := by
    intro c outcome u hu
    refine ensures_bind.mpr ((within_spares hc c.release_asks nofun hu).post (fun _ w hw => ?_) fun _ _ h => h)
    cases outcome <;> exact hw
  unfold whileDrained
  refine ensures_bind.mpr ((within_spares hc (m.drain_asks space claims force) nofun h).post (fun held u hu => ?_)
    fun _ _ h => h)
  refine ensures_bind.mpr (ensures_attempt.mpr ((run u hu).post (fun _ w hw => ?_) fun f w hw => ?_))
  · exact release (held.getD {}) (.ok ()) w hw
  · exact release (held.getD {}) (.error f) w hw

end

/-! ## Workflows -/

/-- A given claim asks for a volume. -/
def Asked (s : Site) (space : String) (given : List String) (n : String) : Prop :=
  ∃ c ∈ given, s.orchestrator.wanted (space, c) = some n

/-- A volume names a claim that is none of the given ones. -/
def HeldByAnother (space : String) (given : List String) (v : VolumeRecord) : Prop :=
  ∃ ref, v.claimRef? = some ref ∧ ∀ c ∈ given, ¬(ref.space = some space ∧ ref.name = some c)

/-- Whatever becomes of its calls, a service leaves the volumes of other claims for which no given claim asks: at every
call and at the end they have the records that they had, and no call writes one. -/
def LeavesOthers (s : Site) (space : String) (given : List String) (service : Service Unit) : Prop :=
  ∀ n v, s.orchestrator.volumes n = some v → HeldByAnother space given v → ¬Asked s space given n →
    service.run.Always (I := collaborators) Site.answer (fun t call =>
        call.writtenVolume? ≠ some n ∧ t.orchestrator.volumes n = some v) s ∧
      (Site.run service s).2.orchestrator.volumes n = some v

section

variable {s : Site} {space : String} {given : List String} {n : String} {v : VolumeRecord} {t : Site × History}

/-- What is ensured of each volume of another claim is how a service runs. -/
theorem leavesOthers_of_ensures {service : Service Unit} (hs : s.orchestrator.Named)
    (h : ∀ n v, v.claimRef?.isSome = true → ¬Asked s space given n → Leaving n v (s, []) →
      Ensures Site.recorded (Spares n v) service (fun _ u => Leaving n v u) (fun _ u => Leaving n v u) (s, [])) :
    LeavesOthers s space given service := by
  rintro n v hv ⟨ref, href, -⟩ hasked
  have ensured := h n v (by rw [href]; rfl) hasked ⟨hs, hv⟩
  obtain ⟨always, ended⟩ := Site.run_ensures
    (fun t call => call.writtenVolume? ≠ some n ∧ t.orchestrator.volumes n = some v)
    (fun _ t => t.orchestrator.volumes n = some v) (fun _ t => t.orchestrator.volumes n = some v)
    (ensured.post (fun _ _ h => h.same) fun _ _ h => h.same)
  refine ⟨always, ?_⟩
  cases hrun : (Site.run service s).1 <;> rw [hrun] at ended <;> exact ended

variable (hc : v.claimRef?.isSome = true)
include hc

/-- What preparing calls leave undisturbed: what they prepare, and the volume. -/
theorem undisturbed_both : Undisturbed Site.recorded (Spares n v) (fun t => Prepared s t ∧ Leaving n v t) where
  may := fun t call hcall h => (undisturbed_leaving hc).may t call hcall h.2
  keeps := fun t call x u hcall h e => ⟨h.1.step hcall e, (undisturbed_leaving hc).keeps t call x u hcall h.2 e⟩

/-- A bound claim is found with another volume, if the claim did not ask for this one. -/
theorem boundClaim_spares (m : Maintenance) {c : String} (hasked : s.orchestrator.wanted (space, c) ≠ some n)
    (h : Prepared s t ∧ Leaving n v t) (hok : t.2.AllSucceeded) :
    Ensures Site.recorded (Spares n v) (m.boundClaim space c)
      (fun bound u => bound.volume.name ≠ n ∧ u.2.AllSucceeded ∧ Prepared s u ∧ Leaving n v u)
      (fun _ u => Leaving n v u) t := by
  refine (m.boundClaim_prepared c (undisturbed_both hc) (fun _ h => h.1) h hok).post (fun bound u hu => ?_)
    fun _ _ h => h.2
  obtain ⟨hok, hboth, hwanted⟩ := hu
  exact ⟨fun e => hasked (e ▸ hwanted), hok, hboth⟩

end

/-- A migration leaves the volumes of other claims. -/
theorem migrate_leaves_others (m : Maintenance) (space claim target : String) (force : Bool) (timeout : Nat) {s : Site}
    (hs : s.orchestrator.Named) : LeavesOthers s space [claim] (m.migrate space claim target force timeout) := by
  refine leavesOthers_of_ensures hs fun n v hc hasked hstart => ?_
  have claimAsks : s.orchestrator.wanted (space, claim) ≠ some n := fun e =>
    hasked ⟨claim, List.mem_singleton_self _, e⟩
  unfold migrate
  refine ensures_bind.mpr ((boundClaim_spares hc m claimAsks ⟨prepared_start hs, hstart⟩
    History.allSucceeded_nil).post (fun bound t ht => ?_) fun _ _ h => h)
  obtain ⟨hn, -, -, ht⟩ := ht
  simp only
  split
  · exact ht
  split
  · exact ht
  split
  · exact ht
  refine ensures_bind.mpr ((within_spares hc (m.requirePrivileged_asks bound.handle.region) nofun ht).post
    (fun _ u hu => ?_) fun _ _ h => h)
  refine ensures_bind.mpr ((within_spares hc (Fleet.isOnline_asks bound.handle.region target) nofun hu).post
    (fun _ u hu => ?_) fun _ _ h => h)
  split
  · exact whileDrained_spares hc m space [claim] force (fun _ hw => relocate_spares hc m hn target timeout hw) hu
  · exact hu

/-- Renaming a claim leaves the volumes of other claims. -/
theorem rename_leaves_others (m : Maintenance) (space old new : String) (force : Bool) {s : Site}
    (hs : s.orchestrator.Named) : LeavesOthers s space [old] (m.rename space old new force) := by
  refine leavesOthers_of_ensures hs fun n v hc hasked hstart => ?_
  have oldAsks : s.orchestrator.wanted (space, old) ≠ some n := fun e =>
    hasked ⟨old, List.mem_singleton_self _, e⟩
  unfold rename
  split
  · exact hstart
  have undisturbed : Undisturbed Site.recorded (Spares n v) (fun t => Prepared s t ∧ Leaving n v t) :=
    undisturbed_both hc
  have start : Prepared s (s, []) ∧ Leaving n v (s, []) := ⟨prepared_start hs, hstart⟩
  refine ensures_bind.mpr (ensures_orchestrator.mpr ⟨undisturbed.may _ _ rfl start, fun x t e => ?_⟩)
  have ht := undisturbed.keeps _ _ _ _ rfl start e
  cases x with
  | error f => exact ht.2
  | ok found =>
    simp only [onOutcome]
    split
    · exact ht.2
    have hok : t.2.AllSucceeded :=
      (Site.recorded_eq.mp e).2 ▸ History.allSucceeded_cons rfl History.allSucceeded_nil
    refine ensures_bind.mpr ((boundClaim_spares hc m oldAsks ht hok).post (fun bound u hu => ?_) fun _ _ h => h)
    obtain ⟨hn, -, -, hu⟩ := hu
    refine whileDrained_spares hc m space [old] force (fun _ hw => rebind_spares hc m space (fun r hr => ?_) hw) hu
    obtain rfl := List.mem_singleton.mp hr
    exact hn

/-- Swapping two claims leaves the volumes of other claims. -/
theorem swap_leaves_others (m : Maintenance) (space first second : String) (force : Bool) {s : Site}
    (hs : s.orchestrator.Named) : LeavesOthers s space [first, second] (m.swap space first second force) := by
  refine leavesOthers_of_ensures hs fun n v hc hasked hstart => ?_
  have asks : ∀ c ∈ [first, second], s.orchestrator.wanted (space, c) ≠ some n := fun c hmem e =>
    hasked ⟨c, hmem, e⟩
  unfold swap
  split
  · exact hstart
  refine ensures_bind.mpr ((boundClaim_spares hc m (asks first (by simp)) ⟨prepared_start hs, hstart⟩
    History.allSucceeded_nil).post (fun a t ha => ?_) fun _ _ h => h)
  obtain ⟨hna, hok, ht⟩ := ha
  refine ensures_bind.mpr ((boundClaim_spares hc m (asks second (by simp)) ht hok).post (fun b u hb => ?_)
    fun _ _ h => h)
  obtain ⟨hnb, -, -, hu⟩ := hb
  split
  · exact hu
  refine whileDrained_spares hc m space _ force (fun _ hw => rebind_spares hc m space (fun r hr => ?_) hw) hu
  simp only [List.mem_cons, List.not_mem_nil, or_false] at hr
  rcases hr with rfl | rfl
  · exact hnb
  · exact hna

/-- **Volumes of other claims are left.** When a workflow runs at a site that keeps volumes under their names, then
whatever becomes of the calls, a volume that another claim has is left, unless a given claim asks for it. -/
theorem foreign_volumes_left (m : Maintenance) (space : String) (s : Site) (hs : s.orchestrator.Named) :
    (∀ claim target force timeout, LeavesOthers s space [claim] (m.migrate space claim target force timeout)) ∧
      (∀ old new force, LeavesOthers s space [old] (m.rename space old new force)) ∧
      ∀ first second force, LeavesOthers s space [first, second] (m.swap space first second force) := by
  refine ⟨?_, ?_, ?_⟩
  · intro claim target force timeout
    exact m.migrate_leaves_others space claim target force timeout hs
  · intro old new force
    exact m.rename_leaves_others space old new force hs
  · intro first second force
    exact m.swap_leaves_others space first second force hs

namespace TwoNodes

/-- The volume while the claim has it. -/
def boundVolume : VolumeRecord :=
  { volume with
    spec := volume.spec.map fun s => { s with claimRef := some { space := some "default", name := some "data" } } }

/-- The region with the volume and the claim that has it, and with another claim that asks for a volume. -/
def contested (wish : String) : Site where
  clusters := (site false).clusters
  orchestrator :=
    { volumes := (Keyed.empty.put "pvc-1" (some boundVolume)).put "pvc-2"
        (some { volume with metadata := { name := some "pvc-2" } })
      claims := (Keyed.empty.put ("default", "data") (some claim)).put ("default", "wish")
        (some {
          metadata := { name := some "wish", space := some "default" }
          spec := some { volumeName := some wish } }) }

theorem contested_named (wish : String) : (contested wish).orchestrator.Named := by
  intro name v hv
  by_cases h2 : name = "pvc-2"
  · subst h2
    cases hv
    rfl
  have hv := (Keyed.put_of_ne _ _ h2).symm.trans hv
  by_cases h1 : name = "pvc-1"
  · subst h1
    cases hv
    rfl
  · exact nomatch (Keyed.put_of_ne Keyed.empty (some boundVolume) h1).symm.trans hv

theorem boundVolume_held : HeldByAnother "default" ["wish"] boundVolume := by
  refine ⟨{ space := some "default", name := some "data" }, rfl, fun c hc => ?_⟩
  obtain rfl := List.mem_singleton.mp hc
  simp

/-- The claim that asks for a volume gets another name. -/
def renamedWish : Service Unit :=
  driver.rename "default" "wish" "granted" false

end TwoNodes

set_option maxRecDepth 4000 in
/-- A claim is renamed while another one has a volume, for which the renamed one does not ask. -/
theorem foreign_volumes_left_apart :
    (TwoNodes.contested "pvc-2").orchestrator.Named ∧
      (TwoNodes.contested "pvc-2").orchestrator.volumes "pvc-1" = some TwoNodes.boundVolume ∧
      HeldByAnother "default" ["wish"] TwoNodes.boundVolume ∧
      (TwoNodes.contested "pvc-2").orchestrator.wanted ("default", "wish") = some "pvc-2" ∧
      (Site.run TwoNodes.renamedWish (TwoNodes.contested "pvc-2")).1.isOk = true ∧
      LeavesOthers (TwoNodes.contested "pvc-2") "default" ["wish"] TwoNodes.renamedWish :=
  ⟨TwoNodes.contested_named "pvc-2", rfl, TwoNodes.boundVolume_held, by decide +kernel, by decide +kernel,
    (foreign_volumes_left TwoNodes.driver "default" (TwoNodes.contested "pvc-2")
      (TwoNodes.contested_named "pvc-2")).2.1 "wish" "granted" false⟩

set_option maxRecDepth 4000 in
/-- A claim that asks for a volume which another claim has is renamed: this ends well, and takes the volume away. -/
theorem rename_takes_foreign :
    (TwoNodes.contested "pvc-1").orchestrator.Named ∧
      (TwoNodes.contested "pvc-1").orchestrator.volumes "pvc-1" = some TwoNodes.boundVolume ∧
      HeldByAnother "default" ["wish"] TwoNodes.boundVolume ∧
      (Site.run TwoNodes.renamedWish (TwoNodes.contested "pvc-1")).1.isOk = true ∧
      ((Site.run TwoNodes.renamedWish (TwoNodes.contested "pvc-1")).2.log.any fun call =>
        call.writtenVolume? = some "pvc-1") = true ∧
      ((Site.run TwoNodes.renamedWish (TwoNodes.contested "pvc-1")).2.orchestrator.volumes "pvc-1").bind
        (fun v => v.claimRef?.bind (·.name)) = some "granted" := by
  refine ⟨TwoNodes.contested_named "pvc-1", rfl, TwoNodes.boundVolume_held, ?_, ?_, ?_⟩
  · decide +kernel
  · decide +kernel
  · decide +kernel

end Maintenance

end ClusterVolumes
