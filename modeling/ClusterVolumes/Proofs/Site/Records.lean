import ClusterVolumes.Maintenance.Retention
import ClusterVolumes.Site.Orchestrator

/-!
# The records of an orchestrator

Binding a claim writes the claim into the record of its volume and leaves the rest of the record. So
`OrchestratorState.records`, the records but for their claims, is changed only by requests that create, replace or
delete the record of a volume (`records_answer`), and what a claim asks for only by those that create or delete claims
(`wanted_answer`).

A claim whose volume has a claim already is not bound anew (`lookAtClaim_of_claimed`), and one that names a volume
without a claim gets it, where claims are bound at once (`addClaim_of_free`).
-/

namespace ClusterVolumes

open Orchestrator

namespace Orchestrator

/-- Does the request write the record of a volume? -/
def Request.writesVolume : Request → Bool
  | .createVolume _ | .replaceVolume _ | .deleteVolume _ => true
  | _ => false

/-- Does the request make or delete a claim? -/
def Request.writesClaim : Request → Bool
  | .createClaim .. | .deleteClaim .. => true
  | _ => false

/-- The record of a volume but for the claim that has it. -/
def VolumeRecord.withoutClaim (v : VolumeRecord) : VolumeRecord :=
  { v with spec := some { v.spec.getD {} with claimRef := none } }

/-- The record of a volume under another reclaim policy. -/
def VolumeRecord.withPolicy (policy : String) (v : VolumeRecord) : VolumeRecord :=
  { v with spec := some { v.spec.getD {} with reclaimPolicy := some policy } }

/-- The record of a volume that a claim has. -/
def VolumeRecord.withClaim (ref : ClaimRef) (v : VolumeRecord) : VolumeRecord :=
  { v with spec := some { v.spec.getD {} with claimRef := some ref } }

/-- The reclaim policy of a volume. -/
def VolumeRecord.policy? (v : VolumeRecord) : Option String :=
  v.spec.bind (·.reclaimPolicy)

theorem VolumeRecord.policy?_eq (v : VolumeRecord) : v.policy? = (v.spec.getD {}).reclaimPolicy := by
  cases h : v.spec <;> simp [policy?, h]

/-- A volume that tells a policy has a specification. -/
theorem VolumeRecord.isSome_spec_of_policy? {v : VolumeRecord} {policy : String} (h : v.policy? = some policy) :
    v.spec.isSome = true := by
  cases hs : v.spec with
  | none => simp [policy?, hs] at h
  | some spec => rfl

/-- A volume is under its own policy. -/
theorem VolumeRecord.withPolicy_of_policy? {v : VolumeRecord} {policy : String} (h : v.policy? = some policy) :
    v.withPolicy policy = v := by
  obtain ⟨metadata, _ | spec, status⟩ := v
  · cases h
  · have same : spec.reclaimPolicy = some policy := h
    simp [withPolicy, ← same]

/-- The policy that a volume is under, or is taken to be. -/
def VolumeRecord.policy (v : VolumeRecord) : String :=
  v.policy?.getD Maintenance.impliedPolicy

theorem VolumeRecord.policy_of_policy? {v : VolumeRecord} {told : String} (h : v.policy? = some told) :
    v.policy = told := by
  rw [policy, h]
  rfl

theorem VolumeRecord.policy?_eq_some {v : VolumeRecord} (h : v.policy?.isSome = true) :
    v.policy? = some v.policy := by
  obtain ⟨told, hp⟩ := Option.isSome_iff_exists.mp h
  rw [policy_of_policy? hp]
  exact hp

/-- Does the record tell of a driver's source? -/
def VolumeRecord.hasSource (v : VolumeRecord) : Bool :=
  (v.spec.bind (·.source)).isSome

/-- A volume with a specification has no claim when the claim is taken out of that. -/
theorem VolumeRecord.unclaimed_eq {v : VolumeRecord} (h : v.spec.isSome = true) :
    { v with spec := v.spec.map fun s => { s with claimRef := none } } = v.withoutClaim := by
  obtain ⟨spec, hspec⟩ := Option.isSome_iff_exists.mp h
  simp [withoutClaim, hspec]

@[simp] theorem VolumeRecord.name_withoutClaim (v : VolumeRecord) : v.withoutClaim.name = v.name := rfl

@[simp] theorem VolumeRecord.policy?_withoutClaim (v : VolumeRecord) : v.withoutClaim.policy? = v.policy? := by
  cases h : v.spec <;> simp [policy?, withoutClaim, h]

@[simp] theorem VolumeRecord.hasSource_withoutClaim (v : VolumeRecord) : v.withoutClaim.hasSource = v.hasSource := by
  cases h : v.spec <;> simp [hasSource, withoutClaim, h]

/-- How the record of a volume names the claim that has it. -/
def Claim.ref (space name : String) (c : Claim) : ClaimRef :=
  { kind := some "PersistentVolumeClaim", space := some space, name := some name, uid := c.metadata.uid }

/-- A claim as it is when it has its volume. -/
def Claim.bound (c : Claim) : Claim :=
  { c with status := some { c.status.getD {} with phase := some "Bound" } }

/-- A claim as it is made in a namespace. -/
def Claim.made (space uid : String) (c : Claim) : Claim :=
  { c with metadata := { c.metadata with space := some space, uid := some uid } }

end Orchestrator

namespace Site.OrchestratorState

variable {o : OrchestratorState}

/-- The records of volumes but for their claims. -/
def records (o : OrchestratorState) (name : String) : Option VolumeRecord :=
  (o.volumes name).map VolumeRecord.withoutClaim

/-- The volume that a claim asks for. -/
def wanted (o : OrchestratorState) (key : String × String) : Option String :=
  (o.claims key).bind Claim.volumeName?

/-- What is told of the records but for their claims is told of the volumes. -/
theorem mem_volumes_of_records_eq {o' : OrchestratorState} {name : String} {v : VolumeRecord}
    (h : o'.records name = o.records name) (hv : o'.volumes name = some v) :
    ∃ v', o.volumes name = some v' ∧ v'.withoutClaim = v.withoutClaim := by
  unfold records at h
  rw [hv] at h
  exact Option.map_eq_some_iff.mp h.symm

/-! ## Binding -/

/-- Binding does nothing, or it writes a claim and its volume, and changes nothing of them but who has whom. -/
theorem bind_cases (o : OrchestratorState) (space name : String) : o.bind space name = o ∨
    ∃ c v record ref status, o.claims (space, name) = some c ∧ o.volumes v = some record ∧
      o.bind space name = { o with
        volumes := o.volumes.put v (some { record with spec := some { record.spec.getD {} with claimRef := ref } })
        claims := o.claims.put (space, name) (some { c with status := status }) } := by
  unfold bind
  split
  · exact .inl rfl
  · rename_i c hc
    simp only
    split
    · exact .inl rfl
    · rename_i v record hv
      split
      · exact .inl rfl
      · obtain ⟨w, -, hw⟩ := Option.bind_eq_some_iff.mp hv
        obtain ⟨r, hr, e⟩ := Option.map_eq_some_iff.mp hw
        obtain ⟨rfl, rfl⟩ := Prod.mk.inj e
        exact .inr ⟨c, w, r, _, _, hc, hr, rfl⟩

theorem records_bind (o : OrchestratorState) (space name : String) : (o.bind space name).records = o.records := by
  rcases bind_cases o space name with e | ⟨c, v, record, ref, status, -, hv, e⟩ <;> rw [e]
  funext n
  by_cases hn : n = v
  · subst hn
    simp [records, hv, VolumeRecord.withoutClaim]
  · simp [records, Keyed.put_of_ne _ _ hn]

theorem wanted_bind (o : OrchestratorState) (space name : String) : (o.bind space name).wanted = o.wanted := by
  rcases bind_cases o space name with e | ⟨c, v, record, ref, status, hc, -, e⟩ <;> rw [e]
  funext key
  by_cases hk : key = (space, name)
  · subst hk
    simp [wanted, hc, Claim.volumeName?]
  · simp [wanted, Keyed.put_of_ne _ _ hk]

/-! ## Answers -/

theorem records_lookAtClaim (o : OrchestratorState) (space name : String) :
    (o.lookAtClaim space name).2.records = o.records := by
  unfold lookAtClaim
  split
  · rfl
  · simp only
    split
    · exact records_bind _ space name
    · rfl

theorem wanted_lookAtClaim (o : OrchestratorState) (space name : String) :
    (o.lookAtClaim space name).2.wanted = o.wanted := by
  unfold lookAtClaim
  split
  · rfl
  · simp only
    split
    · exact wanted_bind _ space name
    · rfl

/-- A look at a claim tells for which volume it asks. -/
theorem volumeName?_lookAtClaim {space name : String} {c : Claim} (h : (o.lookAtClaim space name).1 = some c) :
    c.volumeName? = o.wanted (space, name) := by
  have told : (o.lookAtClaim space name).2.claims (space, name) = some c := h
  rw [← wanted_lookAtClaim o space name, wanted, told]
  rfl

/-- Binding a claim whose volume has one already does nothing. -/
theorem bind_of_claimed {space name v : String} {c : Claim} {record : VolumeRecord}
    (hc : o.claims (space, name) = some c) (hn : c.volumeName? = some v) (hv : o.volumes v = some record)
    (hr : (record.spec.bind (·.claimRef)).isSome = true) : o.bind space name = o := by
  have named : c.spec.bind (·.volumeName) = some v := (Option.filter_eq_some_iff.mp hn).1
  have claimed : (record.spec.getD {}).claimRef.isSome = true := by
    cases hs : record.spec with
    | none => simp [hs] at hr
    | some spec => simpa [hs] using hr
  simp [bind, hc, named, hv, claimed]

/-- A look at a claim whose volume has one already changes nothing but how often it has still to be looked at. -/
theorem lookAtClaim_of_claimed {space name v : String} {c : Claim} {record : VolumeRecord}
    (hc : o.claims (space, name) = some c) (hn : c.volumeName? = some v) (hv : o.volumes v = some record)
    (hr : (record.spec.bind (·.claimRef)).isSome = true) :
    ∃ looks, o.lookAtClaim space name = (some c, { o with unbound := looks }) := by
  unfold lookAtClaim
  cases o.unbound (space, name) with
  | none => exact ⟨o.unbound, by simp only [hc]⟩
  | some n =>
    simp only
    split
    · let looked : OrchestratorState := { o with unbound := o.unbound.put (space, name) none }
      have same : looked.bind space name = looked := bind_of_claimed hc hn hv hr
      refine ⟨o.unbound.put (space, name) none, ?_⟩
      rw [same]
      simp only [looked, hc]
    · exact ⟨_, by rw [hc]⟩

/-- A look at a claim that is not there changes nothing but how often it has still to be looked at. -/
theorem lookAtClaim_of_absent {space name : String} (hc : o.claims (space, name) = none) :
    ∃ looks, o.lookAtClaim space name = (none, { o with unbound := looks }) := by
  unfold lookAtClaim
  cases o.unbound (space, name) with
  | none => exact ⟨o.unbound, by simp only [hc]⟩
  | some n =>
    simp only
    split
    · exact ⟨o.unbound.put (space, name) none, by simp only [bind, hc]⟩
    · exact ⟨_, by rw [hc]⟩

/-- A look at a claim that is there finds it. -/
theorem isSome_lookAtClaim {space name : String} (hc : (o.claims (space, name)).isSome = true) :
    (o.lookAtClaim space name).1.isSome = true := by
  have kept (o : OrchestratorState) (hc : (o.claims (space, name)).isSome = true) :
      ((o.bind space name).claims (space, name)).isSome = true := by
    rcases bind_cases o space name with e | ⟨c, v, record, ref, status, -, -, e⟩ <;> rw [e]
    · exact hc
    · simp
  unfold lookAtClaim
  split
  · exact hc
  · simp only
    split
    · exact kept _ hc
    · exact hc

/-- Binding a claim gives it the volume that it names, if no claim has that. -/
theorem bind_of_free {space name v : String} {c : Claim} {record : VolumeRecord}
    (hc : o.claims (space, name) = some c) (hn : c.spec.bind (·.volumeName) = some v) (hv : o.volumes v = some record)
    (free : record.spec.bind (·.claimRef) = none) :
    o.bind space name = { o with
      volumes := o.volumes.put v (some (record.withClaim (c.ref space name)))
      claims := o.claims.put (space, name) (some c.bound) } := by
  have unclaimed : (record.spec.getD {}).claimRef = none := by
    cases hs : record.spec with
    | none => rfl
    | some spec => simpa [hs] using free
  simp [bind, hc, hn, hv, unclaimed, VolumeRecord.withClaim, Claim.ref, Claim.bound]

/-- Where claims are bound at once, a new claim gets the volume that it names, if no claim has that. -/
theorem addClaim_of_free {v : String} {c : Claim} {record : VolumeRecord} (space : String) (once : o.binding = .atOnce)
    (hn : c.spec.bind (·.volumeName) = some v) (hv : o.volumes v = some record)
    (free : record.spec.bind (·.claimRef) = none) : ∃ uid made,
      (o.addClaim space c).2 = { o with
        volumes := o.volumes.put v (some (record.withClaim ((c.made space uid).ref space c.name)))
        claims := o.claims.put (space, c.name) (some (c.made space uid).bound)
        claimsMade := made } := by
  let uid := "uid-" ++ toString (o.claimsMade + 1)
  let added : OrchestratorState :=
    { o with claims := o.claims.put (space, c.name) (some (c.made space uid)), claimsMade := o.claimsMade + 1 }
  have there : added.claims (space, c.name) = some (c.made space uid) := Keyed.put_self _ _ _
  refine ⟨uid, o.claimsMade + 1, ?_⟩
  calc (o.addClaim space c).2
    _ = added.bind space c.name := by
      simp only [addClaim]
      split
      · rfl
      · rename_i other
        exact nomatch once.symm.trans other
      · rename_i other
        exact nomatch once.symm.trans other
    _ = _ := by
      rw [bind_of_free there hn hv free]
      simp only [added, Keyed.put_put]

theorem records_addClaim (o : OrchestratorState) (space : String) (c : Claim) :
    (o.addClaim space c).2.records = o.records := by
  unfold addClaim
  simp only
  split
  · exact records_bind _ space c.name
  · rfl
  · rfl

theorem records_deletePod (o : OrchestratorState) (space name : String) :
    (o.deletePod space name).records = o.records ∧ (o.deletePod space name).wanted = o.wanted := by
  unfold deletePod
  split
  · exact ⟨rfl, rfl⟩
  · split
    · exact ⟨rfl, rfl⟩
    · simp only
      split <;> exact ⟨rfl, rfl⟩

/-- A request that does not write the record of a volume leaves all records but for their claims. -/
theorem records_answer {r : Request} (hr : r.writesVolume = false) (o : OrchestratorState) :
    (o.answer r).2.records = o.records := by
  cases r with
  | createVolume v => cases hr
  | replaceVolume v => cases hr
  | deleteVolume name => cases hr
  | setUnschedulable name b => simp only [answer]; split <;> rfl
  | deletePod space name => exact (records_deletePod o space name).1
  | claim space name => exact records_lookAtClaim o space name
  | createClaim space c =>
    simp only [answer]
    split
    · rfl
    · exact records_addClaim o space c
  | _ => rfl

/-- A request that makes or deletes no claim leaves what the claims ask for. -/
theorem wanted_answer {r : Request} (hr : r.writesClaim = false) (o : OrchestratorState) :
    (o.answer r).2.wanted = o.wanted := by
  cases r with
  | createClaim space c => cases hr
  | deleteClaim space name => cases hr
  | setUnschedulable name b => simp only [answer]; split <;> rfl
  | deletePod space name => exact (records_deletePod o space name).2
  | claim space name => exact wanted_lookAtClaim o space name
  | createVolume v => simp only [answer]; split <;> rfl
  | replaceVolume v => simp only [answer]; split <;> rfl
  | _ => rfl

/-- When claims are bound stays. -/
theorem binding_answer (r : Request) (o : OrchestratorState) : (o.answer r).2.binding = o.binding := by
  have kept (o : OrchestratorState) (space name : String) : (o.bind space name).binding = o.binding := by
    rcases bind_cases o space name with e | ⟨c, v, record, ref, status, -, -, e⟩ <;> rw [e]
  cases r with
  | setUnschedulable name b => simp only [answer]; split <;> rfl
  | deletePod space name =>
    simp only [answer, deletePod]
    split
    · rfl
    · split
      · rfl
      · split <;> rfl
  | createVolume v => simp only [answer]; split <;> rfl
  | replaceVolume v => simp only [answer]; split <;> rfl
  | claim space name =>
    simp only [answer, lookAtClaim]
    split
    · rfl
    · split
      · exact kept _ space name
      · rfl
  | createClaim space c =>
    simp only [answer]
    split
    · rfl
    · simp only [addClaim]
      split
      · exact kept _ space c.name
      · rfl
      · rfl
  | _ => rfl

/-- What hangs on nodes and volumes only, and is kept by binding, is kept by a request that writes neither. -/
theorem keeps_answer {K : Keyed String Node → Keyed String VolumeRecord → Prop}
    (hbind : ∀ (o : OrchestratorState) space name, K o.nodes o.volumes →
      K (o.bind space name).nodes (o.bind space name).volumes)
    {r : Request} (hr : r.writesVolume = false) (hm : ∀ node b, r ≠ .setUnschedulable node b)
    (h : K o.nodes o.volumes) : K (o.answer r).2.nodes (o.answer r).2.volumes := by
  cases r with
  | createVolume v => cases hr
  | replaceVolume v => cases hr
  | deleteVolume name => cases hr
  | setUnschedulable name b => exact absurd rfl (hm name b)
  | deletePod space name =>
    simp only [answer, deletePod]
    split
    · exact h
    · split
      · exact h
      · split <;> exact h
  | claim space name =>
    simp only [answer, lookAtClaim]
    split
    · exact h
    · split
      · exact hbind { o with unbound := o.unbound.put (space, name) none } space name h
      · exact h
  | createClaim space c =>
    simp only [answer]
    split
    · exact h
    · simp only [addClaim]
      split
      · exact hbind _ space c.name h
      · exact h
      · exact h
  | _ => exact h

/-! ## What is told of all volumes -/

/-- What holds of every volume whatever claim has it, and of the volumes that are written, holds of every volume
afterwards. -/
theorem volumes_answer {Q : String → VolumeRecord → Prop}
    (hQ : ∀ n v v', v.withoutClaim = v'.withoutClaim → Q n v → Q n v') {r : Request}
    (hr : ∀ v, r = .createVolume v ∨ r = .replaceVolume v → Q v.name v) (h : ∀ n v, o.volumes n = some v → Q n v) :
    ∀ n v, (o.answer r).2.volumes n = some v → Q n v := by
  have written : ∀ v, Q v.name v → ∀ n u, o.volumes.put v.name (some v) n = some u → Q n u := by
    intro v hv n u hu
    by_cases hn : n = v.name
    · subst hn
      rw [Keyed.put_self] at hu
      exact Option.some.inj hu ▸ hv
    · exact h n u ((Keyed.put_of_ne _ _ hn).symm.trans hu)
  have other : r.writesVolume = false → ∀ n v, (o.answer r).2.volumes n = some v → Q n v := by
    intro hw n v hv
    obtain ⟨v', hv', e⟩ := mem_volumes_of_records_eq (congrFun (records_answer hw o) n) hv
    exact hQ n v' v e (h n v' hv')
  cases r with
  | createVolume v =>
    simp only [answer]
    split
    · exact h
    · exact written v (hr v (.inl rfl))
  | replaceVolume v =>
    simp only [answer]
    split
    · exact written v (hr v (.inr rfl))
    · exact h
  | deleteVolume name =>
    intro n v hv
    by_cases hn : n = name
    · subst hn
      exact nomatch (Keyed.put_self o.volumes n none).symm.trans hv
    · exact h n v ((Keyed.put_of_ne o.volumes none hn).symm.trans hv)
  | _ => exact other rfl

/-- Every volume is kept under its name. -/
def Named (o : OrchestratorState) : Prop :=
  ∀ name v, o.volumes name = some v → v.name = name

theorem named_answer {r : Request} (h : o.Named) : (o.answer r).2.Named := by
  refine volumes_answer (Q := fun n v => v.name = n) (fun n v v' e hn => ?_) (fun _ _ => rfl) h
  rw [← hn, ← v.name_withoutClaim, e, v'.name_withoutClaim]

/-! ## Retained volumes -/

/-- A volume is there and outlives its claim. -/
def Retained (o : OrchestratorState) (name : String) : Prop :=
  ∃ v, o.volumes name = some v ∧ v.policy? = some Maintenance.retained

/-- Only a record that is written with another policy takes a volume off its policy. -/
theorem retained_answer {r : Request} {name : String} (h : o.Retained name) (hc : r.writesVolume = false ∨
    ∃ v, r = .replaceVolume v ∧ v.policy? = some Maintenance.retained) : (o.answer r).2.Retained name := by
  obtain ⟨v, hv, hp⟩ := h
  rcases hc with hw | ⟨u, rfl, hu⟩
  · obtain ⟨v', hv', e⟩ := mem_volumes_of_records_eq (congrFun (records_answer hw o) name).symm hv
    refine ⟨v', hv', ?_⟩
    rw [← VolumeRecord.policy?_withoutClaim, e, VolumeRecord.policy?_withoutClaim, hp]
  · simp only [answer]
    split
    · by_cases hn : name = u.name
      · subst hn
        exact ⟨u, Keyed.put_self _ _ _, hu⟩
      · exact ⟨v, (Keyed.put_of_ne _ _ hn).trans hv, hp⟩
    · exact ⟨v, hv, hp⟩

/-- A record that is written as retained is retained. -/
theorem retained_replaceVolume {v : VolumeRecord} (h : v.policy? = some Maintenance.retained) {a : VolumeRecord}
    (ha : (o.answer (.replaceVolume v)).1 = .ok a) : (o.answer (.replaceVolume v)).2.Retained v.name := by
  simp only [answer] at ha ⊢
  split at ha
  · rename_i hs
    rw [if_pos hs]
    exact ⟨v, Keyed.put_self _ _ _, h⟩
  · cases ha

end Site.OrchestratorState

end ClusterVolumes
