import ClusterVolumes.Proofs.Maintenance.Footprints
import ClusterVolumes.Proofs.Maintenance.Preparation
import ClusterVolumes.Proofs.Site.Faultless
import ClusterVolumes.Proofs.Site.Pods

/-!
# What a drain leaves

At a site without faults a drain deletes pods that use the claims and no others, and marks nodes. So disks, volumes
and claims rest (`drain_rests`), and every pod stays that does not have the name of a consumer (`KeepsPods.step`).
Work that is done while claims are drained finds them at rest, and what it brings about is kept when the nodes are
given back (`whileDrained_rests`).
-/

namespace ClusterVolumes

open Orchestrator
open Service
open Site (OrchestratorState)

/-! ## Calls of a drain -/

/-- The call asks about nodes or pods, and if it deletes a pod, one of some names; or it lets time pass. -/
def Call.drains (keys : List (String × String)) : Call → Prop
  | .orchestrator (.deletePod space name) => (space, name) ∈ keys
  | .orchestrator r => r.subject = .nodes ∨ r.subject = .pods
  | .sleep _ | .deadline _ => True
  | _ => False

/-- If the call deletes a pod, it is one of some names. -/
def Call.spares (keys : List (String × String)) (call : Call) : Prop :=
  ∀ space name, call = .orchestrator (.deletePod space name) → (space, name) ∈ keys

theorem Call.spares_of_drains {keys : List (String × String)} {call : Call} (h : call.drains keys) :
    call.spares keys := by
  rintro space name rfl
  exact h

/-- A call that is not about pods deletes none. -/
theorem Call.spares_of_isWithin {keys : List (String × String)} {subjects : List Subject} {call : Call}
    (h : call.isWithin subjects = true) (hs : .pods ∉ subjects) : call.spares keys := by
  rintro space name rfl
  exact absurd (List.contains_iff_mem.mp h) hs

/-- The names of the pods of a namespace that use one of some claims. -/
def Site.OrchestratorState.consumerKeys (o : OrchestratorState) (space : String) (claims : List String) :
    List (String × String) :=
  ((o.podsOf space).filter (Pod.consumes claims)).map fun p => (space, p.name)

theorem Site.OrchestratorState.mem_consumerKeys {o : OrchestratorState} {space : String} {claims : List String}
    {key : String × String} : key ∈ o.consumerKeys space claims ↔
      ∃ p ∈ o.pods, p.consumes claims = true ∧ OrchestratorState.podKey p = key ∧ key.1 = space := by
  simp only [consumerKeys, podsOf, List.mem_map, List.mem_filter, List.mem_mergeSort, decide_eq_true_eq]
  constructor
  · rintro ⟨p, ⟨⟨mem, here⟩, consumes⟩, rfl⟩
    exact ⟨p, mem, consumes, Prod.ext here rfl, rfl⟩
  · rintro ⟨p, mem, consumes, rfl, here⟩
    exact ⟨p, ⟨⟨mem, here⟩, consumes⟩, Prod.ext here.symm rfl⟩

/-! ## What rests -/

/-- No fault is left, and disks, volumes and claims are the same. -/
structure Rests (s t : Site) : Prop where
  faults : t.faults = []
  clusters : t.clusters = s.clusters
  volumes : t.orchestrator.volumes = s.orchestrator.volumes
  claims : t.orchestrator.claims = s.orchestrator.claims

theorem Rests.refl {s : Site} (hf : s.faults = []) : Rests s s :=
  ⟨hf, rfl, rfl, rfl⟩

theorem Rests.trans {s t u : Site} (h : Rests s t) (h' : Rests t u) : Rests s u :=
  ⟨h'.faults, h'.clusters.trans h.clusters, h'.volumes.trans h.volumes, h'.claims.trans h.claims⟩

theorem Site.Unchanged.rests {s t : Site} (h : Site.Unchanged s t) : Rests s t := by
  refine ⟨h.faults, h.clusters, ?_, ?_⟩
  · rw [h.orchestrator]
  · rw [h.orchestrator]

/-- The pods that a site had stay, but for those that were about to go and those of some names. -/
def KeepsPods (keys : List (String × String)) (s t : Site) : Prop :=
  ∀ p, s.orchestrator.Stays p → OrchestratorState.podKey p ∉ keys → t.orchestrator.Stays p

section

variable {keys : List (String × String)} {s t u : Site} {call : Call} {x : call.Answer}

theorem KeepsPods.step (h : KeepsPods keys s t) (hc : call.spares keys) (e : Site.answer call t = (x, u)) :
    KeepsPods keys s u := by
  intro p stays other
  refine Site.answer_keeps_orchestrator (K := fun o => o.Stays p) e (h p stays other) ?_
  rintro r rfl
  refine OrchestratorState.stays_answer (h p stays other) ?_
  rintro space name rfl same
  exact other (same ▸ hc space name rfl)

/-- Marking nodes and deleting pods leaves disks, volumes and claims. -/
theorem rests_of_drains (hf : t.faults = []) (hc : call.drains keys) (e : Site.answer call t = (x, u)) : Rests t u := by
  cases call with
  | orchestrator r =>
    have about : r.subject = .nodes ∨ r.subject = .pods := by
      cases r with
      | deletePod space name => exact Or.inr rfl
      | _ => exact hc
    obtain ⟨-, kept⟩ := Site.orchestrator_faultless hf e
    obtain ⟨volumes, claims⟩ := OrchestratorState.volumes_of_pods about t.orchestrator
    exact ⟨Site.answer_faultless hf e, Site.clusters_orchestrator e, kept ▸ volumes, kept ▸ claims⟩
  | sleep ms => exact Site.Unchanged.rests (Site.unchanged_of_looks (by trivial) hf e)
  | deadline ms => exact Site.Unchanged.rests (Site.unchanged_of_looks (by trivial) hf e)
  | _ => exact hc.elim

end

/-! ## Drains -/

namespace Maintenance

variable (m : Maintenance) {u : Site × History}

/-- Of the pods a drain deletes those only that use the claims, and it leaves disks, volumes and claims. -/
theorem drain_rests (space : String) (claims : List String) (force : Bool) (hf : u.1.faults = []) :
    Ensures Site.recorded (fun _ call => call.drains (u.1.orchestrator.consumerKeys space claims))
      (m.drain space claims force) (fun _ v => Rests u.1 v.1) (fun _ v => Rests u.1 v.1) u := by
  rw [drain_eq]
  refine ensures_bind.mpr (ensures_bind.mpr (ensures_orchestrator.mpr ⟨Or.inr rfl, fun x v e => ?_⟩))
  obtain ⟨answered, -⟩ := Site.recorded_eq.mp e
  have lists : Call.drains (u.1.orchestrator.consumerKeys space claims) (.orchestrator (.pods space)) := Or.inr rfl
  have listed : Rests u.1 v.1 := rests_of_drains hf lists answered
  obtain ⟨rfl, -⟩ := Site.orchestrator_faultless hf answered
  -- the pods are known, so from here on it is enough which calls are made
  have asks : (m.drainFrom space claims force ((u.1.orchestrator.podsOf space).filter (Pod.consumes claims))).Asks
      fun call => call.drains (u.1.orchestrator.consumerKeys space claims) :=
    m.drainFrom_asks_of claims force (Or.inr rfl) (fun p hp => List.mem_map.mpr ⟨p, hp, rfl⟩) (fun _ => trivial)
      (fun _ => trivial) (Or.inl rfl) fun _ _ => Or.inl rfl
  exact asks.ensures (K := fun w => Rests u.1 w.1) Site.remembers_recorded (fun _ _ hc _ => hc)
    (fun _ _ _ _ hc hw e => hw.trans (rests_of_drains hw.faults hc (Site.recorded_eq.mp e).1)) listed

/-- Work that is done while claims are drained begins at rest. What it ends well with is the end of it all, if giving
nodes back keeps it. -/
theorem whileDrained_rests {space : String} {claims : List String} (force : Bool) {work : Service Unit}
    {K : Site × History → Prop} (hf : u.1.faults = [])
    (hwork : ∀ v : Site × History, Rests u.1 v.1 → Ensures Site.recorded
      (fun _ call => call.spares (u.1.orchestrator.consumerKeys space claims)) work (fun _ w => K w)
      (fun _ _ => True) v)
    (keeps : ∀ (v w : Site × History) node x, K v →
      Site.recorded v (.orchestrator (.setUnschedulable node false)) x w → K w) :
    Ensures Site.recorded (fun _ call => call.spares (u.1.orchestrator.consumerKeys space claims))
      (m.whileDrained space claims force work) (fun _ w => K w) (fun _ _ => True) u := by
  have drained := (m.drain_rests space claims force hf).mono (fun _ _ h => Call.spares_of_drains h)
    (fun _ _ h => h) fun _ _ _ => trivial
  refine m.ensures_whileDrained space claims force drained hwork fun o v node hv => ⟨?_, fun x w e => ?_⟩
  · rintro space' name e
    cases e
  · cases o with
    | ok _ => exact keeps v w node x hv e
    | error f => trivial

end Maintenance

end ClusterVolumes
