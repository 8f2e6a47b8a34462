import ClusterVolumes.Proofs.Maintenance.Migration
import ClusterVolumes.Proofs.Site.Disks

/-!
# What a migration leaves of a disk

A migration deletes the source of a move after it has seen the copy at the target. If the nodes keep the disks of the
storage apart, these are two disks, and one of them is there at every point of every run. If they share the storage,
they are one disk: what is seen at the target is the source, and a migration that ends well has deleted it. So whether
a disk survives hangs on the storage alone (`migrate_survival`); `migrate_loses_shared` shows a disk that is lost.
-/

namespace ClusterVolumes

open Orchestrator
open Service

/-- A disk of a name is on a storage of a region, where some node sees it. -/
def Site.HasCopy (s : Site) (region storage volid : String) : Prop :=
  s.InRegion region fun c => ∃ node, c.Lists node storage volid

namespace Maintenance

variable {m : Maintenance} {space claim target region storage volid : String}

/-! ## While no disk is deleted -/

theorem hasCopy_step {t u : Site × History} {call : Call} {x : call.Answer} (h : t.1.HasCopy region storage volid)
    (hd : call.deletesDisk = false) (e : Site.recorded t call x u) : u.1.HasCopy region storage volid := by
  refine h.answer (Site.recorded_eq.mp e).1 (fun _ h => h) ?_
  rintro r c rfl ⟨node, hl⟩
  refine ⟨node, Site.ClusterState.lists_answer ?_ hl⟩
  rintro node' storage' volid' rfl
  cases hd

/-- If no disk was deleted so far, there is a copy. -/
def KeptUndeleted (region storage volid : String) (t : Site × History) : Prop :=
  t.2.Without Call.deletesDisk → t.1.HasCopy region storage volid

theorem keptUndeleted_step {t u : Site × History} {call : Call} {x : call.Answer}
    (h : KeptUndeleted region storage volid t) (e : Site.recorded t call x u) :
    KeptUndeleted region storage volid u := by
  intro hu
  rw [(Site.recorded_eq.mp e).2] at hu
  exact hasCopy_step (h fun e he => hu e (List.mem_cons_of_mem _ he)) (hu _ List.mem_cons_self) e

/-! ## A storage that nodes do not share -/

/-- The nodes keep the disks of the storage apart, there is a copy, and what was listed is there while no disk was
deleted. -/
def Apart (region storage volid : String) (t : Site × History) : Prop :=
  t.1.InRegion region fun c => c.isShared storage = false ∧ (∃ node, c.Lists node storage volid) ∧
    (t.2.Without Call.deletesDisk → ∀ node content,
      Exchange.cluster region (.storageContent node storage) (.ok content) ∈ t.2 →
        (∃ v ∈ content, v.volid = volid) → c.Lists node storage volid)

theorem apart_step {t u : Site × History} {call : Call} {x : call.Answer} (h : Apart region storage volid t)
    (hc : m.Ordered space claim target t.2 call) (e : Site.recorded t call x u) : Apart region storage volid u := by
  obtain ⟨hx, hu⟩ := Site.recorded_eq.mp e
  have kept : u.1.InRegion region fun c => c.isShared storage = false ∧ (∃ node, c.Lists node storage volid) ∧
      (u.2.Without Call.deletesDisk → ∀ node content,
        Exchange.cluster region (.storageContent node storage) (.ok content) ∈ t.2 →
          (∃ v ∈ content, v.volid = volid) → c.Lists node storage volid) := by
    have before : u.2.Without Call.deletesDisk → t.2.Without Call.deletesDisk ∧ call.deletesDisk = false := by
      intro h
      rw [hu] at h
      exact ⟨fun e he => h e (List.mem_cons_of_mem _ he), h _ List.mem_cons_self⟩
    refine h.answer hx (fun c ⟨hs, hl, ht⟩ => ⟨hs, hl, fun h => ht (before h).1⟩) ?_
    rintro r c rfl ⟨hs, ⟨node, hl⟩, ht⟩
    refine ⟨(Site.ClusterState.isShared_answer _ _ _ _).trans hs, ?_, ?_⟩
    · by_cases hd : ∃ node' storage' volid', r = .deleteDisk node' storage' volid'
      · obtain ⟨node', storage', volid', rfl⟩ := hd
        obtain ⟨w, -, -, hz, ⟨rfl, rfl, rfl, rfl, reached, hno⟩, -⟩ := hc rfl
        by_cases same : storage = w.source.storage ∧ volid = w.source.volid
        -- the disk itself is deleted, but its copy at the target was listed and is there
        · obtain ⟨rfl, rfl⟩ := same
          obtain ⟨content, hmem, hv⟩ := reached.listing (.inr (.inr rfl))
          refine ⟨w.target, Site.ClusterState.lists_deleteDisk.mpr ⟨ht hno w.target content hmem hv, ?_⟩⟩
          exact fun h => hz (Site.ClusterState.diskHome_inj hs h.2.2).symm
        · exact ⟨node, Site.ClusterState.lists_deleteDisk.mpr ⟨hl, fun h => same ⟨h.1, h.2.1⟩⟩⟩
      · exact ⟨node, Site.ClusterState.lists_answer (fun node' storage' volid' e => hd ⟨_, _, _, e⟩) hl⟩
    · intro h node content hmem hv
      refine Site.ClusterState.lists_answer ?_ (ht (before h).1 node content hmem hv)
      rintro node' storage' volid' rfl
      cases (before h).2
  obtain ⟨c, hcluster, hs, hl, ht⟩ := kept
  refine ⟨c, hcluster, hs, hl, fun h node content hmem hv => ?_⟩
  rw [hu] at hmem
  rcases List.mem_cons.mp hmem with e | hmem
  · cases e
    obtain ⟨c', hc', hl'⟩ := Site.inRegion_storageContent hx hv
    exact Option.some.inj (hc'.symm.trans hcluster) ▸ hl'
  · exact ht h node content hmem hv

/-! ## A storage that nodes share -/

/-- The nodes share the storage, and if a disk was deleted there, no node sees one of its name. -/
def Shared (region storage volid : String) (t : Site × History) : Prop :=
  t.1.InRegion region fun c => c.isShared storage = true ∧
    ((∃ node, Exchange.cluster region (.deleteDisk node storage volid) (.ok ()) ∈ t.2) →
      ∀ node, ¬c.Lists node storage volid)

/-- After a deletion a migration changes no disk. -/
theorem unchanged_of_deleted {past : History} {call : Call} (hc : m.Ordered space claim target past call)
    (hd : ¬past.Without Call.deletesDisk) : call.changesDisks = false := by
  refine Bool.eq_false_iff.mpr fun hch => ?_
  cases call with
  | cluster region r =>
    obtain ⟨w, -, -, -, due, -⟩ := hc hch
    cases r with
    | createDisk node storage disk => exact due
    | deleteDisk node storage volid => exact hd due.2.2.2.2.2
    | copyVolume node storage volid target' => exact hd due.2.2.2.2.2.2.deletes
    | _ => cases hch
  | _ => cases hch

theorem shared_step {t u : Site × History} {call : Call} {x : call.Answer} (h : Shared region storage volid t)
    (hc : m.Ordered space claim target t.2 call) (e : Site.recorded t call x u) : Shared region storage volid u := by
  obtain ⟨hx, hu⟩ := Site.recorded_eq.mp e
  have shared : u.1.InRegion region fun c => c.isShared storage = true :=
    Site.inRegion_isShared (h.mono fun _ h => h.1) hx
  by_cases hdel : ∃ node, Exchange.cluster region (.deleteDisk node storage volid) (.ok ()) ∈ u.2
  · obtain ⟨node, hmem⟩ := hdel
    have gone : u.1.InRegion region fun c => ∀ node, ¬c.Lists node storage volid := by
      rw [hu] at hmem
      rcases List.mem_cons.mp hmem with e | hold
      · cases e
        obtain ⟨c, hcluster, hs, -⟩ := h
        obtain ⟨c', hc', -, hput⟩ := Site.answer_cluster_ok hx
        obtain rfl : c' = c := Option.some.inj (hc'.symm.trans hcluster)
        refine ⟨_, hput ▸ Keyed.put_self _ _ _, fun node' hl => ?_⟩
        refine (Site.ClusterState.lists_deleteDisk.mp hl).2 ⟨rfl, rfl, ?_⟩
        rw [Site.ClusterState.diskHome_shared hs, Site.ClusterState.diskHome_shared hs]
      · refine h.answer hx (fun c h => h.2 ⟨node, hold⟩) ?_
        rintro r c rfl h node' hl
        have still : (Call.cluster region r).changesDisks = false :=
          unchanged_of_deleted hc fun h => nomatch h _ hold
        exact h.2 ⟨node, hold⟩ node' ((Site.ClusterState.lists_answer_iff still).mp hl)
    exact (shared.and gone).mono fun c h => ⟨h.1, fun _ => h.2⟩
  · exact shared.mono fun c h => ⟨h, fun hd => absurd hd hdel⟩

/-! ## Runs -/

/-- The bound claim that opens a recorded move is the one that is found at the site. -/
theorem boundClaim_run {s s₁ s₂ : Site} {name : String} {bound : BoundClaim}
    (hc : Site.answer (.orchestrator (.claim space claim)) s = (.ok (some bound.claim), s₁))
    (hv : Site.answer (.orchestrator (.volume name)) s₁ = (.ok (some bound.volume), s₂))
    (told : bound.Told m.driver name) : (Site.run (m.boundClaim space claim) s).1 = .ok bound := by
  obtain ⟨source, hof, hparse⟩ := told.parsed
  have found : Ensures (Program.ofHandler (I := collaborators) Site.answer) (fun _ _ => True)
      (m.boundClaim space claim) (fun b _ => b = bound) (fun _ _ => False) s := by
    unfold Maintenance.boundClaim volumeRecord
    refine ensures_bind.mpr (ensures_orchestrator.mpr ⟨trivial, fun x t e => ?_⟩)
    obtain ⟨rfl, rfl⟩ := Prod.mk.inj (hc.symm.trans e)
    refine ensures_bind.mpr (ensures_require.mpr ⟨fun c hc => ?_, fun h => nomatch h⟩)
    obtain rfl := Option.some.inj hc
    rw [told.named]
    refine ensures_bind.mpr (ensures_require.mpr ⟨fun n hn => ?_, fun h => nomatch h⟩)
    obtain rfl := Option.some.inj hn
    refine ensures_bind.mpr (ensures_bind.mpr (ensures_orchestrator.mpr ⟨trivial, fun x t e => ?_⟩))
    obtain ⟨rfl, rfl⟩ := Prod.mk.inj (hv.symm.trans e)
    refine ensures_require.mpr ⟨fun v hv => ?_, fun h => nomatch h⟩
    obtain rfl := Option.some.inj hv
    rw [hof]
    refine ensures_bind.mpr (ensures_require.mpr ⟨fun d hd => ?_, fun h => nomatch h⟩)
    obtain rfl := Option.some.inj hd
    rw [hparse]
    exact rfl
  have ended := (Program.ensures_ofHandler.mp found).2
  change onOutcome _ _ (Site.run (m.boundClaim space claim) s).1 _ at ended
  cases h : (Site.run (m.boundClaim space claim) s).1 with
  | error f => rw [h] at ended; exact ended.elim
  | ok b => rw [h] at ended; exact congrArg _ ended

/-- A recorded run that opened a move of a claim did so with the claim that is found at the site. -/
theorem boundClaim_of_opened {s : Site} {t : Site × History} {w : Move} {bound : BoundClaim}
    (ho : w.Opened m.driver space claim t.2) (hr : Program.Replays (I := collaborators) Site.answer s t.2 t.1)
    (hb : (Site.run (m.boundClaim space claim) s).1 = .ok bound) : w.source = bound.handle := by
  obtain ⟨later, bound', name, hpast, told, hw, -⟩ := ho
  rw [hpast] at hr
  obtain ⟨u, hr⟩ := hr.earlier
  obtain ⟨t₁, hr, hvolume⟩ := hr.latest
  obtain ⟨t₀, hr, hclaim⟩ := hr.latest
  cases hr
  have hb' := boundClaim_run hclaim hvolume told
  rw [hb] at hb'
  rw [hw, Except.ok.inj hb']

/-- How a migration goes at a site whose history is kept. -/
theorem migrate_recorded (m : Maintenance) (space claim target : String) (force : Bool) (timeout : Nat) (s : Site) :
    Ensures Site.recorded (fun t call => m.Ordered space claim target t.2 call)
      (m.migrate space claim target force timeout) (fun _ t => m.EndsWell space claim target t.2)
      (fun f t => EndsBadly target f t.2) (s, []) :=
  Ensures.remembered Site.remembers_recorded (s := (s, [])) (m.migrate_ensures space claim target force timeout)

/-- Where nodes keep the disks of a storage apart, a disk that is there is there all along. -/
theorem survives_apart (m : Maintenance) (force : Bool) (timeout : Nat) {s : Site}
    (hcopy : s.HasCopy region storage volid) (hapart : s.InRegion region fun c => c.isShared storage = false) :
    (m.migrate space claim target force timeout).run.Always (I := collaborators) Site.answer
        (fun t _ => t.HasCopy region storage volid) s ∧
      (Site.run (m.migrate space claim target force timeout) s).2.HasCopy region storage volid := by
  have start : Apart region storage volid (s, []) :=
    (hapart.and hcopy).mono fun c h => ⟨h.1, h.2, fun _ _ _ hm => nomatch hm⟩
  have kept := (m.migrate_recorded space claim target force timeout s).and_invariant
    (fun _ _ _ _ h hc e => apart_step h hc e) start
  have has : ∀ t, Apart region storage volid t → t.1.HasCopy region storage volid :=
    fun t h => h.mono fun c h => h.2.1
  obtain ⟨always, ended⟩ := Site.run_ensures (fun t _ => t.HasCopy region storage volid)
    (fun _ t => t.HasCopy region storage volid) (fun _ t => t.HasCopy region storage volid)
    (kept.mono (fun t _ h => has t h.2) (fun _ t h => has t h.2) fun _ t h => has t h.2)
  refine ⟨always, ?_⟩
  cases hrun : (Site.run (m.migrate space claim target force timeout) s).1 <;> rw [hrun] at ended <;> exact ended

/-- Where nodes share a storage, a migration to another node that ends well has deleted the one disk. -/
theorem lost_shared (m : Maintenance) (force : Bool) (timeout : Nat) {s : Site} {bound : BoundClaim}
    (hbound : (Site.run (m.boundClaim space claim) s).1 = .ok bound) (hz : bound.handle.zone ≠ target)
    (hshared : s.InRegion bound.handle.region fun c => c.isShared bound.handle.storage = true)
    (hok : (Site.run (m.migrate space claim target force timeout) s).1 = .ok ()) :
    ¬(Site.run (m.migrate space claim target force timeout) s).2.HasCopy bound.handle.region bound.handle.storage
      bound.handle.volid := by
  have start : Shared bound.handle.region bound.handle.storage bound.handle.volid (s, []) :=
    hshared.mono fun c h => ⟨h, fun ⟨_, hm⟩ => nomatch hm⟩
  have kept := ((m.migrate_recorded space claim target force timeout s).and_invariant
    (fun _ _ _ _ h hc e => shared_step h hc e) start).and_invariant
    (K := fun t => Program.Replays (I := collaborators) Site.answer s t.2 t.1)
    (fun _ _ _ _ h _ e => Program.replays_recording h e) .nil
  have gone : Ensures Site.recorded (fun _ _ => True) (m.migrate space claim target force timeout)
      (fun _ t => ¬t.1.HasCopy bound.handle.region bound.handle.storage bound.handle.volid) (fun _ _ => True)
      (s, []) := by
    refine kept.mono (fun _ _ _ => trivial) (fun _ t h => ?_) fun _ _ _ => trivial
    obtain ⟨⟨⟨w, hopened, rfl, hend⟩, c, hcluster, -, hgone⟩, hreplays⟩ := h
    have hw := boundClaim_of_opened hopened hreplays hbound
    have hdel : w.SourceDeleted t.2 := hend.resolve_left (hw ▸ hz)
    rintro ⟨c', hc', node, hl⟩
    obtain rfl : c' = c := Option.some.inj (hc'.symm.trans hcluster)
    exact hgone ⟨w.source.zone, hw ▸ hdel⟩ node hl
  have ended := (Site.run_ensures (fun _ _ => True)
    (fun _ t => ¬t.HasCopy bound.handle.region bound.handle.storage bound.handle.volid) (fun _ _ => True) gone).2
  rw [hok] at ended
  exact ended

/-- A migration that fails without speaking of a source that remains leaves every disk. -/
theorem survives_failure (m : Maintenance) (force : Bool) (timeout : Nat) {s : Site}
    (hcopy : s.HasCopy region storage volid) {f : Failure}
    (hf : (Site.run (m.migrate space claim target force timeout) s).1 = .error f)
    (hno : ∀ source cause, f ≠ sourceRemains source target cause) :
    (Site.run (m.migrate space claim target force timeout) s).2.HasCopy region storage volid := by
  have kept := (m.migrate_recorded space claim target force timeout s).and_invariant
    (K := KeptUndeleted region storage volid) (fun _ _ _ _ h _ e => keptUndeleted_step h e) fun _ => hcopy
  have ended := (Site.run_ensures (fun _ _ => True) (fun _ _ => True)
    (fun f t => (∀ source cause, f ≠ sourceRemains source target cause) → t.HasCopy region storage volid)
    (kept.mono (fun _ _ _ => trivial) (fun _ _ _ => trivial) fun _ _ h hf => h.2 (h.1 hf))).2
  rw [hf] at ended
  exact ended hno

/-- **What a migration leaves of a disk.** Where nodes keep the disks of a storage apart, a disk that is there is there
at every point of every run. Where they share it, a migration to another node that ends well has deleted it, and one
that fails has kept it, unless it says that the source remains. -/
theorem migrate_survival (m : Maintenance) (space claim target : String) (force : Bool) (timeout : Nat) (s : Site) :
    (∀ region storage volid, s.HasCopy region storage volid →
      (s.InRegion region fun c => c.isShared storage = false) →
        (m.migrate space claim target force timeout).run.Always (I := collaborators) Site.answer
          (fun t _ => t.HasCopy region storage volid) s ∧
        (Site.run (m.migrate space claim target force timeout) s).2.HasCopy region storage volid) ∧
    (∀ bound, (Site.run (m.boundClaim space claim) s).1 = .ok bound → bound.handle.zone ≠ target →
      (s.InRegion bound.handle.region fun c => c.isShared bound.handle.storage = true) →
        (Site.run (m.migrate space claim target force timeout) s).1 = .ok () →
          ¬(Site.run (m.migrate space claim target force timeout) s).2.HasCopy bound.handle.region bound.handle.storage
            bound.handle.volid) ∧
    ∀ region storage volid, s.HasCopy region storage volid →
      ∀ f, (Site.run (m.migrate space claim target force timeout) s).1 = .error f →
        (∀ source cause, f ≠ sourceRemains source target cause) →
          (Site.run (m.migrate space claim target force timeout) s).2.HasCopy region storage volid := by
  refine ⟨fun region storage volid hcopy hapart => ?_, fun bound hbound hz hshared hok => ?_,
    fun region storage volid hcopy f hf hno => ?_⟩
  · exact m.survives_apart force timeout hcopy hapart
  · exact m.lost_shared force timeout hbound hz hshared hok
  · exact m.survives_failure force timeout hcopy hf hno

/-! ## Two nodes -/

namespace TwoNodes

theorem hasCopy (shared : Bool) : (site shared).HasCopy "r1" "data" "data:vm-9999-pvc-1" := by
  refine ⟨cluster shared, rfl, "z1", Site.ClusterState.lists_iff.mpr ?_⟩
  cases shared <;> decide

theorem inRegion_isShared (shared : Bool) : (site shared).InRegion "r1" fun c => c.isShared "data" = shared :=
  ⟨cluster shared, rfl, by cases shared <;> decide⟩

end TwoNodes

set_option maxRecDepth 4000 in
/-- A disk on a storage that the nodes do not share survives its move. -/
theorem migrate_survival_apart :
    (Site.run (TwoNodes.driver.migrate "default" "data" "z2" false 10000) (TwoNodes.site false)).1.isOk = true ∧
      (Site.run (TwoNodes.driver.migrate "default" "data" "z2" false 10000) (TwoNodes.site false)).2.HasCopy "r1" "data"
        "data:vm-9999-pvc-1" :=
  ⟨by decide +kernel,
    ((migrate_survival TwoNodes.driver "default" "data" "z2" false 10000 (TwoNodes.site false)).1 _ _ _
      (TwoNodes.hasCopy false) (TwoNodes.inRegion_isShared false)).2⟩

set_option maxRecDepth 4000 in
/-- A disk on a storage that the nodes share is lost when the volume is moved between them, although the handle names
a node: the move ends well, and no node sees the disk. -/
theorem migrate_loses_shared :
    ((Site.run (TwoNodes.driver.boundClaim "default" "data") (TwoNodes.site true)).1.toOption.map (·.handle)) =
        some TwoNodes.handle ∧
      (TwoNodes.site true).HasCopy TwoNodes.handle.region TwoNodes.handle.storage TwoNodes.handle.volid ∧
      (Site.run (TwoNodes.driver.migrate "default" "data" "z2" false 10000) (TwoNodes.site true)).1.isOk = true ∧
      ¬(Site.run (TwoNodes.driver.migrate "default" "data" "z2" false 10000) (TwoNodes.site true)).2.HasCopy
        TwoNodes.handle.region TwoNodes.handle.storage TwoNodes.handle.volid := by
  have none_left : ((Site.run (TwoNodes.driver.migrate "default" "data" "z2" false 10000)
      (TwoNodes.site true)).2.clusters "r1").map (·.disks) = some [] := by decide +kernel
  refine ⟨by decide +kernel, TwoNodes.hasCopy true, by decide +kernel, ?_⟩
  rintro ⟨c, hc, node, d, hd, -⟩
  obtain ⟨c', hc', he⟩ := Option.map_eq_some_iff.mp none_left
  obtain rfl : c' = c := Option.some.inj (hc'.symm.trans hc)
  rw [he] at hd
  cases hd

end Maintenance

end ClusterVolumes
