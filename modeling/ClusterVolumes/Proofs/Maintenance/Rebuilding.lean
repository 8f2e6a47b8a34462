import ClusterVolumes.Proofs.Maintenance.Effect
import ClusterVolumes.Proofs.Maintenance.RebuiltClaims
import Mathlib.Data.List.Nodup

/-!
# What rebuilding claims brings about

A plan says which claims are rebuilt, under which names and for which volumes. At a site without faults, where a new
claim gets the volume that it names at once, the loops of a plan that is `Sound` are followed in turn: volumes are
retained, old claims deleted, volumes freed, new claims made and awaited, and policies put back. Each loop takes the
volumes from one record to the next (`forM_records`, `createClaims_done`), and throughout, what is not in the plan stays
(`Underway`). So a plan that is carried out does what it says and no more (`rebind_done`, `CarriedOut`).

A renaming carries out a plan for one claim, and a swap a plan for two that crosses their volumes. `rebuilding_effect`
says what each has brought about when it ends well.
-/

namespace ClusterVolumes

open Orchestrator
open Service

/-! ## Plans -/

namespace Rebinding

/-- The claim was rebuilt: there is a new one under its name, modelled on the old one and bound, and its volume has a
record but for the claim, which is the new one. -/
def IsRebuilt (space : String) (record : VolumeRecord) (r : Rebinding) (s : Site) : Prop :=
  ∃ made, made.isBound = true ∧ r.claim.RebuiltAs made r.name r.volume ∧
    s.orchestrator.claims (space, r.name) = some made ∧
    s.orchestrator.volumes r.volume.name = some (record.withClaim (made.ref space r.name))

/-- A rebuilt claim is there where its name and its volume have what they had. -/
theorem IsRebuilt.kept {space : String} {record : VolumeRecord} {r : Rebinding} {s t : Site}
    (h : r.IsRebuilt space record s)
    (claims : t.orchestrator.claims (space, r.name) = s.orchestrator.claims (space, r.name))
    (volumes : t.orchestrator.volumes r.volume.name = s.orchestrator.volumes r.volume.name) :
    r.IsRebuilt space record t := by
  obtain ⟨made, bound, modelled, there, recorded⟩ := h
  exact ⟨made, bound, modelled, claims.trans there, volumes.trans recorded⟩

end Rebinding

/-- At a site a claim, which is kept under its own name, is bound to a volume of the driver that has a policy. -/
structure BoundClaim.IsRebuildable (bound : BoundClaim) (driver space name : String) (s : Site) : Prop
    extends bound.IsAt driver space name s where
  own : bound.claim.name = name
  policies : bound.volume.policy?.isSome = true

namespace Maintenance

/-- The volumes and claims that are not in a plan are the same. -/
structure Besides (space : String) (plan : List Rebinding) (s t : Site) : Prop where
  volumes : ∀ n, (∀ r ∈ plan, n ≠ r.volume.name) → t.orchestrator.volumes n = s.orchestrator.volumes n
  claims : ∀ key, (∀ r ∈ plan, key ≠ (space, r.claim.name) ∧ key ≠ (space, r.name)) →
    t.orchestrator.claims key = s.orchestrator.claims key

theorem Besides.kept {space : String} {plan : List Rebinding} {s t u : Site} (h : Besides space plan s t)
    (rests : Rests t u) : Besides space plan s u where
  volumes n other := (congrFun rests.volumes n).trans (h.volumes n other)
  claims key other := (congrFun rests.claims key).trans (h.claims key other)

/-- The old claims of a plan are gone, unless there is a new one of the name. -/
def Cleared (space : String) (plan : List Rebinding) (s : Site) : Prop :=
  ∀ r ∈ plan, (∀ r' ∈ plan, r.claim.name ≠ r'.name) → s.orchestrator.claims (space, r.claim.name) = none

theorem Cleared.kept {space : String} {plan : List Rebinding} {s t : Site} (h : Cleared space plan s)
    (rests : Rests s t) : Cleared space plan t := fun r mem other =>
  (congrFun rests.claims _).trans (h r mem other)

/-- A plan is carried out at a site without faults, where claims are bound at once. -/
structure Underway (space : String) (plan : List Rebinding) (s t : Site) : Prop extends Besides space plan s t where
  faults : t.faults = []
  once : t.orchestrator.binding = .atOnce

/-- The volume has the record that is told of it. -/
def IsRecorded (record : Rebinding → VolumeRecord) (r : Rebinding) (u : Site × History) : Prop :=
  u.1.orchestrator.volumes r.volume.name = some (record r)

/-- A plan that can be carried out: its volumes are different ones with names and policies, and its new claims have
different names. -/
structure Sound (plan : List Rebinding) : Prop where
  volumes : (plan.map (·.volume.name)).Nodup
  names : (plan.map (·.name)).Nodup
  named : ∀ r ∈ plan, r.volume.name ≠ ""
  policies : ∀ r ∈ plan, r.volume.policy?.isSome = true

namespace HasRecord

variable {s t : Site} {name : String} {record : Option VolumeRecord}

/-- The other volumes have the records that they had. -/
theorem volumes_of_ne (h : HasRecord s name record t) {n : String} (hn : n ≠ name) :
    t.orchestrator.volumes n = s.orchestrator.volumes n := by
  rw [h.orchestrator]
  exact Keyed.put_of_ne _ _ hn

theorem claims (h : HasRecord s name record t) : t.orchestrator.claims = s.orchestrator.claims := by
  rw [h.orchestrator]

theorem binding (h : HasRecord s name record t) : t.orchestrator.binding = s.orchestrator.binding := by
  rw [h.orchestrator]

end HasRecord

section

variable {space : String} {plan : List Rebinding} {r : Rebinding} {s : Site} {t u w : Site × History}
  {before after : Rebinding → VolumeRecord}

/-- A change of what is in the plan leaves what is not. -/
theorem Underway.change (h : Underway space plan s t.1) (mem : r ∈ plan) (faults : u.1.faults = [])
    (volumes : ∀ n, n ≠ r.volume.name → u.1.orchestrator.volumes n = t.1.orchestrator.volumes n)
    (claims : ∀ key, key ≠ (space, r.claim.name) → key ≠ (space, r.name) →
      u.1.orchestrator.claims key = t.1.orchestrator.claims key)
    (once : u.1.orchestrator.binding = t.1.orchestrator.binding) : Underway space plan s u.1 where
  volumes n other := (volumes n (other r mem)).trans (h.volumes n other)
  claims key other := (claims key (other r mem).1 (other r mem).2).trans (h.claims key other)
  faults := faults
  once := once.trans h.once

/-- Writing the record of a volume of the plan leaves what is not in the plan. -/
theorem Underway.record {record : Option VolumeRecord} (h : Underway space plan s t.1) (mem : r ∈ plan)
    (hr : HasRecord t.1 r.volume.name record u.1) : Underway space plan s u.1 :=
  h.change mem hr.faults (fun _ other => hr.volumes_of_ne other) (fun key _ _ => congrFun hr.claims key) hr.binding

/-- Where the record of one volume is written, the others have theirs. -/
theorem taken_of_hasRecord {K : Site × History → Prop} (before after : Rebinding → VolumeRecord) (kept : K w)
    (h : HasRecord t.1 r.volume.name (some (after r)) w.1) :
    Taken K (IsRecorded before) (IsRecorded after) (·.volume.name) plan r t w := by
  refine ⟨kept, h.volumes, fun b _ other => ⟨fun hb => ?_, fun hb => ?_⟩⟩
  · exact (h.volumes_of_ne other).trans hb
  · exact (h.volumes_of_ne other).trans hb

/-- A loop that writes the records of the volumes of a plan in turn. -/
theorem forM_records {K : Site × History → Prop} {f : Rebinding → Service PUnit}
    (before after : Rebinding → VolumeRecord) (distinct : (plan.map (·.volume.name)).Nodup)
    (faults : ∀ t, K t → t.1.faults = [])
    (keeps : ∀ r ∈ plan, ∀ (t w : Site × History) record, K t → HasRecord t.1 r.volume.name record w.1 → K w)
    (step : ∀ r ∈ plan, ∀ t : Site × History, HasRecord t.1 r.volume.name (some (before r)) t.1 →
      Ensures Site.recorded (fun _ _ => True) (f r)
        (fun _ w => HasRecord t.1 r.volume.name (some (after r)) w.1) (fun _ _ => True) t)
    (kept : K u) (start : ∀ r ∈ plan, IsRecorded before r u) :
    Ensures Site.recorded (fun _ _ => True) (plan.forM f) (fun _ w => K w ∧ ∀ r ∈ plan, IsRecorded after r w)
      (fun _ _ => True) u := by
  refine Ensures.forM_taken (K := K) (A := IsRecorded before) distinct (fun r mem t ht hr => ?_) kept start
  refine (step r mem t (.refl (faults t ht) hr)).post (fun _ w hw => ?_) fun _ _ h => h
  exact taken_of_hasRecord before after (keeps r mem t w _ ht hw) hw

/-! ## The loops in turn -/

/-- The record of a volume that is retained. -/
def keptRecord (r : Rebinding) : VolumeRecord :=
  r.volume.withPolicy retained

/-- All volumes are retained, and their policies are told. -/
theorem retainAll_done (sound : Sound plan) (h : Underway space plan s u.1)
    (start : ∀ r ∈ plan, IsRecorded (·.volume) r u) :
    Ensures Site.recorded (fun _ _ => True) (plan.mapM fun r => retain r.volume.name)
      (fun policies w => policies = plan.map (·.volume.policy) ∧ Underway space plan s w.1 ∧
        ∀ r ∈ plan, IsRecorded keptRecord r w)
      (fun _ _ => True) u := by
  refine Ensures.mapM_taken (K := fun v : Site × History => Underway space plan s v.1) (A := IsRecorded (·.volume))
    (·.volume.policy) sound.volumes (fun r mem t ht hr => ?_) h start
  have held : HasRecord t.1 r.volume.name (some r.volume) t.1 := .refl ht.faults hr
  refine (held.retain (VolumeRecord.policy?_eq_some (sound.policies r mem))).post ?_ fun _ _ h => h
  rintro told w ⟨rfl, hw⟩
  exact ⟨rfl, taken_of_hasRecord _ keptRecord (ht.record mem hw) hw⟩

/-- An old claim is deleted. -/
theorem deleteClaim_done (mem : r ∈ plan) (h : Underway space plan s t.1) :
    Ensures Site.recorded (fun _ _ => True) (Service.orchestrator (.deleteClaim space r.claim.name))
      (fun _ w => Underway space plan s w.1 ∧ w.1.orchestrator.volumes = t.1.orchestrator.volumes ∧
        w.1.orchestrator.claims = t.1.orchestrator.claims.put (space, r.claim.name) none) (fun _ _ => True) t := by
  refine Site.ensures_orchestrator_faultless h.faults trivial fun w faults _ kept _ => ?_
  simp only [Site.OrchestratorState.answer] at kept
  refine ⟨h.change mem faults (fun n _ => ?_) (fun key old _ => ?_) ?_, ?_, ?_⟩
  · rw [kept]
  · rw [kept]
    exact Keyed.put_of_ne _ _ old
  all_goals rw [kept]

/-- All old claims are deleted. -/
theorem deleteClaims_done (h : Underway space plan s u.1) (start : ∀ r ∈ plan, IsRecorded before r u) :
    Ensures Site.recorded (fun _ _ => True)
      (plan.forM fun r => Service.orchestrator (.deleteClaim space r.claim.name))
      (fun _ w => (Underway space plan s w.1 ∧ ∀ r ∈ plan, w.1.orchestrator.claims (space, r.claim.name) = none) ∧
        ∀ r ∈ plan, IsRecorded before r w) (fun _ _ => True) u := by
  refine Ensures.forM (fun gone v => (Underway space plan s v.1 ∧ ∀ r ∈ plan, IsRecorded before r v) ∧
    ∀ r ∈ gone, v.1.orchestrator.claims (space, r.claim.name) = none) plan (fun gone r rest t hl ht => ?_)
    (fun _ ht => ⟨⟨ht.1.1, ht.2⟩, ht.1.2⟩) ⟨⟨h, start⟩, by simp⟩
  obtain ⟨⟨under, records⟩, cleared⟩ := ht
  have mem : r ∈ plan := by simp [hl]
  refine (deleteClaim_done mem under).post ?_ fun _ _ h => h
  rintro - w ⟨under, volumes, claims⟩
  refine ⟨⟨under, fun b hb => (congrFun volumes _).trans (records b hb)⟩, fun b hb => ?_⟩
  rw [claims]
  -- two claims of a plan may have one name, so the last one may have been deleted before
  by_cases same : b.claim.name = r.claim.name
  · rw [same]
    exact Keyed.put_self _ _ _
  · rw [Keyed.put_of_ne _ _ fun e => same (Prod.mk.inj e).2]
    rcases List.mem_append.mp hb with hb | hb
    · exact cleared b hb
    · obtain rfl := List.mem_singleton.mp hb
      exact absurd rfl same

/-- All volumes are taken away from their claims. -/
theorem unclaimAll_done (sound : Sound plan)
    (h : Underway space plan s u.1 ∧ ∀ r ∈ plan, u.1.orchestrator.claims (space, r.claim.name) = none)
    (start : ∀ r ∈ plan, IsRecorded keptRecord r u) :
    Ensures Site.recorded (fun _ _ => True) (plan.forM fun r => unclaim r.volume.name)
      (fun _ w => (Underway space plan s w.1 ∧ ∀ r ∈ plan, w.1.orchestrator.claims (space, r.claim.name) = none) ∧
        ∀ r ∈ plan, IsRecorded (fun r => (keptRecord r).withoutClaim) r w) (fun _ _ => True) u := by
  refine forM_records (K := fun v : Site × History => Underway space plan s v.1 ∧
      ∀ r ∈ plan, v.1.orchestrator.claims (space, r.claim.name) = none) keptRecord
    (fun r => (keptRecord r).withoutClaim) sound.volumes (fun _ h => h.1.faults)
    (fun r mem t w record ht hw => ⟨ht.1.record mem hw, fun b hb => ?_⟩) (fun r _ t ht => ?_) h start
  · rw [hw.claims]
    exact ht.2 b hb
  · have held : HasRecord t.1 (keptRecord r).name (some (keptRecord r)) t.1 := ht
    exact held.unclaim rfl

/-- The new claim of a plan was made with its volume, which is retained. -/
def IsMade (space : String) (r : Rebinding) (u : Site × History) : Prop :=
  r.IsRebuilt space (keptRecord r) u.1

/-- A new claim gets its volume at once, and what is not its own stays. -/
theorem createClaim_done (mem : r ∈ plan) (h : Underway space plan s t.1)
    (free : IsRecorded (fun r => (keptRecord r).withoutClaim) r t) :
    Ensures Site.recorded (fun _ _ => True)
      (Service.orchestrator (.createClaim space (r.claim.rebuilt r.name r.volume)))
      (fun _ w => Underway space plan s w.1 ∧ IsMade space r w ∧
        (∀ n, n ≠ r.volume.name → w.1.orchestrator.volumes n = t.1.orchestrator.volumes n) ∧
        ∀ name, name ≠ r.name → w.1.orchestrator.claims (space, name) = t.1.orchestrator.claims (space, name))
      (fun _ _ => True) t := by
  have modelled := r.claim.rebuiltAs_rebuilt r.name r.volume
  have named : (r.claim.rebuilt r.name r.volume).name = r.name := rfl
  obtain ⟨uid, number, added⟩ := Site.OrchestratorState.addClaim_of_free space h.once modelled.volumeName free rfl
  refine Site.ensures_orchestrator_faultless h.faults trivial fun w faults _ kept _ => ?_
  simp only [Site.OrchestratorState.answer] at kept ⊢
  split
  · trivial
  · rename_i absent
    rw [if_neg absent, added, named] at kept
    have volumes (n : String) (hn : n ≠ r.volume.name) :
        w.1.orchestrator.volumes n = t.1.orchestrator.volumes n := by
      rw [kept]
      exact Keyed.put_of_ne _ _ hn
    have claims (key : String × String) (hk : key ≠ (space, r.name)) :
        w.1.orchestrator.claims key = t.1.orchestrator.claims key := by
      rw [kept]
      exact Keyed.put_of_ne _ _ hk
    refine ⟨h.change mem faults volumes (fun key _ new => claims key new) ?_, ?_, volumes, fun name other => ?_⟩
    · rw [kept]
    · refine ⟨_, Claim.isBound_bound _, modelled.bound_made space uid, ?_, ?_⟩
      · rw [kept]
        exact Keyed.put_self _ _ _
      · rw [kept]
        exact Keyed.put_self _ _ _
    · exact claims _ fun e => other (Prod.mk.inj e).2

/-- All new claims are made, and each gets its volume. -/
theorem createClaims_done (sound : Sound plan) (h : Underway space plan s u.1 ∧ Cleared space plan u.1)
    (start : ∀ r ∈ plan, IsRecorded (fun r => (keptRecord r).withoutClaim) r u) :
    Ensures Site.recorded (fun _ _ => True)
      (plan.forM fun r => do
        let _ ← Service.orchestrator (.createClaim space (r.claim.rebuilt r.name r.volume)))
      (fun _ w => (Underway space plan s w.1 ∧ Cleared space plan w.1) ∧ ∀ r ∈ plan, IsMade space r w)
      (fun _ _ => True) u := by
  refine Ensures.forM_taken (K := fun v : Site × History => Underway space plan s v.1 ∧ Cleared space plan v.1)
    (A := IsRecorded fun r => (keptRecord r).withoutClaim) sound.volumes (fun r mem t ht free => ?_) h start
  refine ensures_bind.mpr ((createClaim_done mem ht.1 free).post ?_ fun _ _ h => h)
  rintro _ w ⟨under, made, volumes, claims⟩
  refine ⟨⟨under, fun b hb other => ?_⟩, made, fun b hb other => ⟨fun free => ?_, fun made => ?_⟩⟩
  · exact (claims _ (other r mem)).trans (ht.2 b hb other)
  · exact (volumes _ other).trans free
  · have apart : b.name ≠ r.name := fun same =>
      other (congrArg (·.volume.name) (List.inj_on_of_nodup_map sound.names hb mem same))
    exact made.kept (claims _ apart) (volumes _ other)

/-- All new claims of a plan were made, and the policies of their volumes are still to be put back. -/
structure AllMade (space : String) (plan : List Rebinding) (s : Site) (u : Site × History) : Prop
    extends Underway space plan s u.1 where
  cleared : Cleared space plan u.1
  made : ∀ r ∈ plan, IsMade space r u

/-- New claims that were made are there where claims and volumes rest. -/
theorem AllMade.kept (h : AllMade space plan s t) (rests : Rests t.1 w.1)
    (once : w.1.orchestrator.binding = t.1.orchestrator.binding) : AllMade space plan s w where
  toBesides := h.toBesides.kept rests
  faults := rests.faults
  once := once.trans h.once
  cleared := h.cleared.kept rests
  made r mem := (h.made r mem).kept (congrFun rests.claims _) (congrFun rests.volumes _)

/-- A look at a new claim changes no claim and no volume, because the claim has its volume. -/
theorem AllMade.looked {x : Except Failure (Option Claim)} (sound : Sound plan) (h : AllMade space plan s t)
    (mem : r ∈ plan) (e : Site.recorded t (.orchestrator (.claim space r.name)) x w) : AllMade space plan s w := by
  obtain ⟨answered, -⟩ := Site.recorded_eq.mp e
  obtain ⟨-, kept⟩ := Site.orchestrator_faultless h.faults answered
  obtain ⟨claim, -, modelled, there, recorded⟩ := h.made r mem
  obtain ⟨looks, seen⟩ := Site.OrchestratorState.lookAtClaim_of_claimed there
    (modelled.volumeName? (sound.named r mem)) recorded rfl
  simp only [Site.OrchestratorState.answer, seen] at kept
  refine h.kept ⟨Site.answer_faultless h.faults answered, Site.clusters_orchestrator answered, ?_, ?_⟩ ?_
  all_goals rw [kept]

/-- All new claims are awaited, which changes no claim and no volume. -/
theorem awaitAll_made (m : Maintenance) (sound : Sound plan) (h : AllMade space plan s u) :
    Ensures Site.recorded (fun _ _ => True) (plan.forM fun r => m.awaitBound space r.name)
      (fun _ w => AllMade space plan s w) (fun _ _ => True) u := by
  refine Ensures.forM (fun _ v => AllMade space plan s v) plan (fun _ r _ t hl ht => ?_) (fun _ ht => ht) h
  have mem : r ∈ plan := by simp [hl]
  have asks : (m.awaitBound space r.name).Asks fun call =>
      call = .orchestrator (.claim space r.name) ∨ call.looks := by
    unfold awaitBound isBound
    refine Asks.pollUntil ((asks_orchestrator (.inl rfl)).bind fun found => ?_) (.inr trivial) (.inr trivial)
    cases found <;> exact asks_pure
  refine (asks.ensures (P := fun _ _ => True) (K := AllMade space plan s) Site.remembers_recorded
    (fun _ _ _ _ => trivial) (fun v call x w hc hv e => ?_) ht).post (fun _ _ h => h) fun _ _ _ => trivial
  rcases hc with rfl | looks
  · exact hv.looked sound mem e
  · have same : Site.Unchanged v.1 w.1 := Site.unchanged_of_looks looks hv.faults (Site.recorded_eq.mp e).1
    refine hv.kept same.rests ?_
    rw [same.orchestrator]

/-- A volume that was retained for a claim is what it was but for the claim, once it is under its own policy. -/
theorem withPolicy_keptRecord (sound : Sound plan) (mem : r ∈ plan) (ref : ClaimRef) :
    ((keptRecord r).withClaim ref).withPolicy r.volume.policy = r.volume.withClaim ref := by
  conv_rhs => rw [← VolumeRecord.withPolicy_of_policy? (VolumeRecord.policy?_eq_some (sound.policies r mem))]
  rfl

/-- All volumes are under their own policies again. -/
theorem setPolicies_done (sound : Sound plan) (h : AllMade space plan s u) :
    Ensures Site.recorded (fun _ _ => True)
      ((plan.zip (plan.map (·.volume.policy))).forM fun (r, policy) => setPolicy r.volume.name policy)
      (fun _ w => (Underway space plan s w.1 ∧ Cleared space plan w.1) ∧ ∀ r ∈ plan, r.IsRebuilt space r.volume w.1)
      (fun _ _ => True) u := by
  choose! made bound modelled there recorded using h.made
  -- the policies were told in the order of the plan, so each volume is put under its own
  have each : ((plan.zip (plan.map (·.volume.policy))).forM fun (r, policy) => setPolicy r.volume.name policy) =
      plan.forM fun r => setPolicy r.volume.name r.volume.policy := by
    have paired := List.zip_map' (f := id) (g := fun r => r.volume.policy) (l := plan)
    rw [List.map_id] at paired
    rw [paired]
    exact List.forM_map
  rw [each]
  refine (forM_records (K := fun v : Site × History => (Underway space plan s v.1 ∧ Cleared space plan v.1) ∧
      ∀ r ∈ plan, v.1.orchestrator.claims (space, r.name) = some (made r))
    (fun r => (keptRecord r).withClaim ((made r).ref space r.name))
    (fun r => r.volume.withClaim ((made r).ref space r.name)) sound.volumes (fun _ h => h.1.1.faults)
    (fun r mem t w record ht hw => ?_) (fun r mem t ht => ?_) ⟨⟨h.toUnderway, h.cleared⟩, there⟩ recorded).post
    (fun _ w hw => ⟨hw.1.1, fun r mem => ?_⟩) fun _ _ h => h
  · refine ⟨⟨ht.1.1.record mem hw, fun b hb other => ?_⟩, fun b hb => ?_⟩
    · exact (congrFun hw.claims _).trans (ht.1.2 b hb other)
    · exact (congrFun hw.claims _).trans (ht.2 b hb)
  · let held := (keptRecord r).withClaim ((made r).ref space r.name)
    have hr : HasRecord t.1 held.name (some held) t.1 := ht
    rw [← withPolicy_keptRecord sound mem]
    exact hr.setPolicy r.volume.policy
  · exact ⟨made r, bound r mem, modelled r mem, hw.1.2 r mem, hw.2 r mem⟩

/-! ## Plans that are carried out -/

/-- A plan was carried out: its claims were rebuilt, its old claims are gone, and what is not in it is the same. -/
structure CarriedOut (space : String) (plan : List Rebinding) (s t : Site) : Prop extends Besides space plan s t where
  faults : t.faults = []
  cleared : Cleared space plan t
  done : ∀ r ∈ plan, r.IsRebuilt space r.volume t

/-- A plan that is carried out at a site without faults does what it says. -/
theorem rebind_done (m : Maintenance) (sound : Sound plan) (hf : u.1.faults = [])
    (once : u.1.orchestrator.binding = .atOnce) (start : ∀ r ∈ plan, IsRecorded (·.volume) r u) :
    Ensures Site.recorded (fun _ _ => True) (m.rebind space plan) (fun _ w => CarriedOut space plan u.1 w.1)
      (fun _ _ => True) u := by
  have under : Underway space plan u.1 u.1 := ⟨⟨fun _ _ => rfl, fun _ _ => rfl⟩, hf, once⟩
  unfold rebind
  refine ensures_bind.mpr ((retainAll_done sound under start).post ?_ fun _ _ h => h)
  rintro _ v ⟨rfl, under, kept⟩
  refine ensures_bind.mpr ((deleteClaims_done under kept).post ?_ fun _ _ h => h)
  rintro - w ⟨gone, kept⟩
  refine ensures_bind.mpr ((unclaimAll_done sound gone kept).post ?_ fun _ _ h => h)
  rintro - x ⟨⟨under, gone⟩, free⟩
  have cleared : Cleared space plan x.1 := fun r mem _ => gone r mem
  refine ensures_bind.mpr ((createClaims_done sound ⟨under, cleared⟩ free).post ?_ fun _ _ h => h)
  rintro - y ⟨⟨under, cleared⟩, made⟩
  refine ensures_bind.mpr ((awaitAll_made m sound ⟨under, cleared, made⟩).post ?_ fun _ _ h => h)
  intro _ z made
  refine (setPolicies_done sound made).post ?_ fun _ _ h => h
  rintro - w ⟨⟨under, cleared⟩, done⟩
  exact ⟨under.toBesides, under.faults, cleared, done⟩

/-- What was carried out from where claims and volumes rest was carried out from before. -/
theorem CarriedOut.of_rests {v w x : Site} (h : CarriedOut space plan w x) (before : Rests v w) :
    CarriedOut space plan v x where
  volumes n other := (h.volumes n other).trans (congrFun before.volumes n)
  claims key other := (h.claims key other).trans (congrFun before.claims key)
  faults := h.faults
  cleared := h.cleared
  done := h.done

/-- What was carried out stays so where claims and volumes rest. -/
theorem CarriedOut.kept {v w x : Site} (h : CarriedOut space plan v w) (rests : Rests w x) :
    CarriedOut space plan v x where
  toBesides := h.toBesides.kept rests
  faults := rests.faults
  cleared := h.cleared.kept rests
  done r mem := (h.done r mem).kept (congrFun rests.claims _) (congrFun rests.volumes _)

/-- Claims are rebuilt while they are drained. -/
theorem rebind_whileDrained (m : Maintenance) (claims : List String) (force : Bool) (sound : Sound plan)
    (hu : Untouched s u) (once : s.orchestrator.binding = .atOnce)
    (start : ∀ r ∈ plan, s.orchestrator.volumes r.volume.name = some r.volume) :
    Ensures Site.recorded (fun _ _ => True) (m.whileDrained space claims force (m.rebind space plan))
      (fun _ w => CarriedOut space plan s w.1) (fun _ _ => True) u := by
  have begun : u.1.orchestrator.binding = .atOnce := by
    obtain ⟨looks, same⟩ := hu.orchestrator
    rw [same]
    exact once
  -- a drain leaves volumes and claims, and no call changes when claims are bound
  have drained := (m.drain_rests space claims force hu.faults).and_invariant
    (K := fun v => v.1.orchestrator.binding = .atOnce) (fun v call x w atOnce _ e => ?_) begun
  · refine m.ensures_whileDrained space claims force
      (K := fun v : Site × History => Rests u.1 v.1 ∧ v.1.orchestrator.binding = .atOnce)
      (drained.mono (fun _ _ _ => trivial) (fun _ _ h => h) fun _ _ _ => trivial) (fun v ⟨rests, atOnce⟩ => ?_)
      fun o v node hv => ⟨trivial, fun x w e => ?_⟩
    · have rests : Rests s v.1 := hu.rests.trans rests
      have recorded : ∀ r ∈ plan, IsRecorded (·.volume) r v := fun r mem =>
        (congrFun rests.volumes _).trans (start r mem)
      refine (rebind_done m sound rests.faults atOnce recorded).post (fun _ w hw => ?_) fun _ _ h => h
      exact hw.of_rests rests
    · cases o with
      | error f => trivial
      | ok _ =>
        have done : CarriedOut space plan s v.1 := hv
        have marks : Call.drains [] (.orchestrator (.setUnschedulable node false)) := Or.inl rfl
        exact done.kept (rests_of_drains done.faults marks (Site.recorded_eq.mp e).1)
  · refine Site.answer_keeps_orchestrator (K := fun o => o.binding = .atOnce) (Site.recorded_eq.mp e).1 atOnce ?_
    rintro r rfl
    rw [Site.OrchestratorState.binding_answer]
    exact atOnce

end

/-! ## Runs -/

section

variable (m : Maintenance) {space : String} {s : Site} {bound a b : BoundClaim}

/-- A claim that is renamed is rebuilt under its new name. -/
theorem rename_done (old new : String) (force : Bool) (hf : s.faults = [])
    (once : s.orchestrator.binding = .atOnce) (h : bound.IsAt m.driver space old s)
    (policies : bound.volume.policy?.isSome = true) :
    Ensures Site.recorded (fun _ _ => True) (m.rename space old new force)
      (fun _ v => old ≠ new ∧ CarriedOut space [⟨bound.claim, new, bound.volume⟩] s v.1) (fun _ _ => True) (s, []) := by
  unfold rename
  split
  · trivial
  rename_i apart
  refine ensures_bind.mpr (Site.ensures_orchestrator_faultless hf trivial fun v faults clusters kept past => ?_)
  cases hc : s.orchestrator.claims (space, new) with
  | some c =>
    have found : ((s.orchestrator.lookAtClaim space new).1).isSome = true :=
      Site.OrchestratorState.isSome_lookAtClaim (by rw [hc]; rfl)
    simp only [Site.OrchestratorState.answer, onOutcome, found, if_true]
    trivial
  | none =>
    -- the look can bind no claim, because none has the name
    obtain ⟨looks, seen⟩ := Site.OrchestratorState.lookAtClaim_of_absent hc
    simp only [Site.OrchestratorState.answer, seen] at kept past ⊢
    have untouched : Untouched s v := by
      refine ⟨faults, clusters, ⟨looks, kept⟩, ?_⟩
      rw [past]
      rfl
    refine ensures_bind.mpr ((m.boundClaim_found untouched h fun _ _ _ => trivial).post ?_ fun _ _ _ => trivial)
    rintro _ w ⟨rfl, untouched⟩
    have sound : Sound [⟨bound.claim, new, bound.volume⟩] := by
      constructor
      · simp
      · simp
      · simpa using h.told.volume_ne
      · simpa using policies
    refine (rebind_whileDrained m [old] force sound untouched once ?_).post (fun _ x hx => ⟨apart, hx⟩) fun _ _ h => h
    simpa using h.volume

/-- Claims that are swapped are rebuilt, each with the volume of the other. -/
theorem swap_done (first second : String) (force : Bool) (hf : s.faults = [])
    (once : s.orchestrator.binding = .atOnce) (ha : a.IsAt m.driver space first s) (hb : b.IsAt m.driver space second s)
    (policies : a.volume.policy?.isSome = true ∧ b.volume.policy?.isSome = true) :
    Ensures Site.recorded (fun _ _ => True) (m.swap space first second force)
      (fun _ v => CarriedOut space [⟨a.claim, first, b.volume⟩, ⟨b.claim, second, a.volume⟩] s v.1)
      (fun _ _ => True) (s, []) := by
  unfold swap
  split
  · trivial
  rename_i apart
  refine ensures_bind.mpr ((m.boundClaim_found (.refl hf) ha fun _ _ _ => trivial).post ?_ fun _ _ _ => trivial)
  rintro _ v ⟨rfl, untouched⟩
  refine ensures_bind.mpr ((m.boundClaim_found untouched hb fun _ _ _ => trivial).post ?_ fun _ _ _ => trivial)
  rintro _ w ⟨rfl, untouched⟩
  split
  · trivial
  rename_i different
  have sound : Sound [⟨a.claim, first, b.volume⟩, ⟨b.claim, second, a.volume⟩] := by
    constructor
    · simpa using Ne.symm different
    · simpa using apart
    · simpa using ⟨hb.told.volume_ne, ha.told.volume_ne⟩
    · simpa using ⟨policies.2, policies.1⟩
  refine (rebind_whileDrained m [first, second] force sound untouched once ?_).post (fun _ _ h => h) fun _ _ h => h
  simpa using ⟨hb.volume, ha.volume⟩

/-- A claim was renamed: it is gone, and there is a new one with its volume. -/
structure Renamed (space old new : String) (bound : BoundClaim) (s t : Site) : Prop where
  gone : t.orchestrator.claims (space, old) = none
  done : Rebinding.IsRebuilt space bound.volume ⟨bound.claim, new, bound.volume⟩ t
  volumes : ∀ n, n ≠ bound.volume.name → t.orchestrator.volumes n = s.orchestrator.volumes n
  claims : ∀ key, key ≠ (space, old) → key ≠ (space, new) → t.orchestrator.claims key = s.orchestrator.claims key

/-- Two claims were swapped: each has the volume that the other one had. -/
structure Swapped (space first second : String) (a b : BoundClaim) (s t : Site) : Prop where
  done : Rebinding.IsRebuilt space b.volume ⟨a.claim, first, b.volume⟩ t ∧
    Rebinding.IsRebuilt space a.volume ⟨b.claim, second, a.volume⟩ t
  volumes : ∀ n, n ≠ a.volume.name → n ≠ b.volume.name → t.orchestrator.volumes n = s.orchestrator.volumes n
  claims : ∀ key, key ≠ (space, first) → key ≠ (space, second) →
    t.orchestrator.claims key = s.orchestrator.claims key

/-- **The effect of renaming and swapping.** At a site without faults, where a new claim gets the volume that it names
at once: a renaming that ends well leaves the claim's volume with a new claim of the new name and none of the old one,
and swapping that ends well leaves each claim with the volume of the other. The new claims are modelled on the old
ones, the volumes have the policies that they had, and all other volumes and claims are the same. -/
theorem rebuilding_effect (hf : s.faults = []) (once : s.orchestrator.binding = .atOnce) :
    (∀ {old new force bound t}, bound.IsRebuildable m.driver space old s →
      Site.run (m.rename space old new force) s = (.ok (), t) → Renamed space old new bound s t) ∧
    ∀ {first second force a b t}, a.IsRebuildable m.driver space first s → b.IsRebuildable m.driver space second s →
      Site.run (m.swap space first second force) s = (.ok (), t) → Swapped space first second a b s t := by
  constructor
  · intro old new force bound t h hrun
    have ended := Site.run_exchanges_ended (m.rename_done old new force hf once h.toIsAt h.policies)
    rw [hrun] at ended
    obtain ⟨apart, done⟩ := ended
    refine ⟨?_, done.done _ (by simp), fun n hn => done.volumes n (by simpa using hn), fun key ho hn => ?_⟩
    · have gone := done.cleared _ List.mem_cons_self (by simpa [h.own] using apart)
      rwa [h.own] at gone
    · exact done.claims key (by simpa [h.own] using ⟨ho, hn⟩)
  · intro first second force a b t ha hb hrun
    have done := Site.run_exchanges_ended (m.swap_done first second force hf once ha.toIsAt hb.toIsAt
      ⟨ha.policies, hb.policies⟩)
    rw [hrun] at done
    refine ⟨⟨done.done _ (by simp), done.done _ (by simp)⟩, fun n na nb => ?_, fun key hfirst hsecond => ?_⟩
    · exact done.volumes n (by simpa using ⟨nb, na⟩)
    · exact done.claims key (by simpa [ha.own, hb.own] using ⟨hfirst, hsecond⟩)

end

namespace TwoNodes

/-- Another claim, with a volume on the second node that stays when it has no claim. -/
def other : BoundClaim where
  claim :=
    { metadata :=
        { name := some "logs", space := some "default"
          annotations := some (TextMap.ofList [("note", "kept"), ("pv.kubernetes.io/bind-completed", "yes")]) }
      spec := some { volumeName := some "pvc-2" } }
  volume :=
    { metadata := { name := some "pvc-2" }
      spec := some
        { source := some { driver := "d", volumeHandle := "r1/z2/data/vm-9999-pvc-2" }
          capacity := some (TextMap.ofList [("storage", "20Gi")])
          reclaimPolicy := some "Retain"
          claimRef := some { space := some "default", name := some "logs" } } }
  handle := ⟨"r1", "z2", "data", "vm-9999-pvc-2"⟩

/-- The region while two claims have volumes. -/
def pair : Site where
  clusters := (site false).clusters
  orchestrator :=
    { volumes := (Keyed.empty.put "pvc-1" (some bound.volume)).put "pvc-2" (some other.volume)
      claims := (Keyed.empty.put ("default", "data") (some claim)).put ("default", "logs") (some other.claim) }

theorem bound_isRebuildable : bound.IsRebuildable "d" "default" "data" pair where
  toIsAt := ⟨rfl, rfl, bound_isAt.told, rfl⟩
  own := rfl
  policies := rfl

theorem other_isRebuildable : other.IsRebuildable "d" "default" "logs" pair where
  toIsAt := by
    have formed : other.handle.WellFormed := ⟨⟨by decide, by decide, by decide⟩, rfl, rfl, rfl, by decide⟩
    refine ⟨rfl, rfl, ⟨rfl, _, rfl, ?_⟩, rfl⟩
    exact (VolumeHandle.parseLegacy_text other.handle).trans (VolumeHandle.parse_eq_ok_iff.mpr ⟨rfl, formed⟩)
  own := rfl
  policies := rfl

/-- A renaming of one claim and a swap of both end well. -/
theorem pair_runs :
    (Site.run (driver.rename "default" "data" "db" false) pair).1.isOk = true ∧
      (Site.run (driver.swap "default" "data" "logs" false) pair).1.isOk = true := by
  decide +kernel

end TwoNodes

/-- A claim is renamed, and two claims are swapped. -/
theorem rebuilding_effect_pair :
    (∃ t, Site.run (TwoNodes.driver.rename "default" "data" "db" false) TwoNodes.pair = (.ok (), t) ∧
      Renamed "default" "data" "db" TwoNodes.bound TwoNodes.pair t) ∧
    ∃ t, Site.run (TwoNodes.driver.swap "default" "data" "logs" false) TwoNodes.pair = (.ok (), t) ∧
      Swapped "default" "data" "logs" TwoNodes.bound TwoNodes.other TwoNodes.pair t := by
  obtain ⟨renames, swaps⟩ := TwoNodes.pair_runs
  constructor
  · obtain ⟨_, t, hrun⟩ := Site.run_of_isOk renames
    exact ⟨t, hrun, (rebuilding_effect TwoNodes.driver rfl rfl).1 TwoNodes.bound_isRebuildable hrun⟩
  · obtain ⟨_, t, hrun⟩ := Site.run_of_isOk swaps
    exact ⟨t, hrun, (rebuilding_effect TwoNodes.driver rfl rfl).2 TwoNodes.bound_isRebuildable
      TwoNodes.other_isRebuildable hrun⟩

end Maintenance

end ClusterVolumes
