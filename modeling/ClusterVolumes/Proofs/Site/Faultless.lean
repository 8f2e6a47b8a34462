import ClusterVolumes.Proofs.Footprint
import ClusterVolumes.Proofs.Site.Disks

/-!
# Sites without faults

Where no fault is left, none comes up (`answer_faultless`), and every call is answered as its collaborator answers: a
cluster of the region (`cluster_faultless`) or, where there is none, not at all (`cluster_absent`), and the orchestrator
(`orchestrator_faultless`). So there is one run, and the rules `ensures_cluster_faultless`, `ensures_look`,
`ensures_orchestrator_faultless` and `ensures_holding_faultless` follow it call by call together with its exchanges.
A service that only looks changes nothing (`unchanged_of_asks`).
-/

namespace ClusterVolumes

/-- The call asks neither a cluster nor the orchestrator, or it asks a cluster for something that changes no cluster. -/
def Call.looks : Call → Prop
  | .cluster region r => ∀ c : Site.ClusterState, (c.answer region r).2 = c
  | .orchestrator _ => False
  | _ => True

namespace Site

variable {s t : Site}

/-- Without faults no failure strikes. -/
theorem faults_eq_nil_iff : s.faults = [] ↔ ∀ f, ¬s.Strikes f := by
  constructor
  · rintro h f ⟨fault, mem, -⟩
    rw [h] at mem
    cases mem
  · intro h
    exact List.eq_nil_iff_forall_not_mem.mpr fun fault mem => h fault.failure ⟨fault, mem, rfl⟩

/-- No fault comes up where there is none. -/
theorem answer_faultless {call : Call} {x : call.Answer} (hf : s.faults = []) (h : answer call s = (x, t)) :
    t.faults = [] := by
  rw [faults_eq_nil_iff] at hf ⊢
  intro f strikes
  exact hf f ((answer_strikes h f).mp strikes)

/-- A cluster does what it is asked. -/
theorem cluster_faultless {region : String} {r : Hypervisor.Request} {x : Except Failure r.Answer} {c : ClusterState}
    (hf : s.faults = []) (hc : s.clusters region = some c) (h : answer (.cluster region r) s = (x, t)) :
    x = (c.answer region r).1 ∧ t.clusters = s.clusters.put region (some (c.answer region r).2) := by
  have calm := faults_eq_nil_iff.mp hf
  rcases answer_cluster h with ⟨f, -, -, strikes | ⟨absent, -⟩⟩ | ⟨c', hc', hx, ht⟩ | ⟨c', f, -, -, strikes, -⟩
  · exact absurd strikes (calm f)
  · rw [hc] at absent
    cases absent
  · obtain rfl : c' = c := Option.some.inj (hc'.symm.trans hc)
    exact ⟨hx, ht⟩
  · exact absurd strikes (calm f)

/-- A region that has no cluster is not found. -/
theorem cluster_absent {region : String} {r : Hypervisor.Request} {x : Except Failure r.Answer}
    (hf : s.faults = []) (hc : s.clusters region = none) (h : answer (.cluster region r) s = (x, t)) :
    x = .error (.regionNotFound region) ∧ t.clusters = s.clusters := by
  have calm := faults_eq_nil_iff.mp hf
  rcases answer_cluster h with ⟨f, hx, ht, strikes | ⟨-, rfl⟩⟩ | ⟨c', hc', -, -⟩ | ⟨c', f, -, -, strikes, -⟩
  · exact absurd strikes (calm f)
  · exact ⟨hx, ht⟩
  · rw [hc] at hc'
    cases hc'
  · exact absurd strikes (calm f)

/-- The orchestrator does what it is asked. -/
theorem orchestrator_faultless {r : Orchestrator.Request} {x : Except Failure r.Answer} (hf : s.faults = [])
    (h : answer (.orchestrator r) s = (x, t)) :
    x = (s.orchestrator.answer r).1 ∧ t.orchestrator = (s.orchestrator.answer r).2 := by
  have calm := faults_eq_nil_iff.mp hf
  change s.serve (.orchestrator r) (askOrchestrator r) = (x, t) at h
  rcases serve_cases (.orchestrator r) (askOrchestrator r) s with ⟨f, strikes, -⟩ | served | ⟨f, strikes, -⟩
  · exact absurd strikes (calm f)
  · obtain ⟨rfl, rfl⟩ := Prod.mk.inj (served.symm.trans h)
    exact ⟨rfl, rfl⟩
  · exact absurd strikes (calm f)

/-! ## What has not changed -/

/-- No fault is left, and what clusters and orchestrator keep is the same. -/
structure Unchanged (s t : Site) : Prop where
  faults : t.faults = []
  clusters : t.clusters = s.clusters
  orchestrator : t.orchestrator = s.orchestrator

theorem Unchanged.trans {u : Site} (h : Unchanged s t) (h' : Unchanged t u) : Unchanged s u :=
  ⟨h'.faults, h'.clusters.trans h.clusters, h'.orchestrator.trans h.orchestrator⟩

/-- A call that asks neither a cluster nor the orchestrator changes nothing that they keep. -/
theorem unchanged_of_other {call : Call} {x : call.Answer} (hf : s.faults = [])
    (hc : ∀ region r, call ≠ .cluster region r) (ho : ∀ r, call ≠ .orchestrator r) (h : answer call s = (x, t)) :
    Unchanged s t := by
  have clusters := answer_clusters hc s
  have orchestrator := answer_records ho s
  rw [h] at clusters orchestrator
  exact ⟨answer_faultless hf h, clusters, orchestrator⟩

/-- A call of a cluster leaves the orchestrator. -/
theorem orchestrator_cluster {region : String} {r : Hypervisor.Request} {x : Except Failure r.Answer}
    (h : answer (.cluster region r) s = (x, t)) : t.orchestrator = s.orchestrator := by
  have kept := answer_records (c := .cluster region r) (fun _ e => nomatch e) s
  rw [h] at kept
  exact kept

/-- A call of the orchestrator leaves the clusters. -/
theorem clusters_orchestrator {r : Orchestrator.Request} {x : Except Failure r.Answer}
    (h : answer (.orchestrator r) s = (x, t)) : t.clusters = s.clusters := by
  have kept := answer_clusters (c := .orchestrator r) (fun _ _ e => nomatch e) s
  rw [h] at kept
  exact kept

/-- Looking changes nothing. -/
theorem unchanged_of_looks {call : Call} {x : call.Answer} (hl : call.looks) (hf : s.faults = [])
    (h : answer call s = (x, t)) : Unchanged s t := by
  cases call with
  | cluster region r =>
    refine ⟨answer_faultless hf h, ?_, orchestrator_cluster h⟩
    cases hc : s.clusters region with
    | none => exact (cluster_absent hf hc h).2
    | some c =>
      have clusters := (cluster_faultless hf hc h).2
      rw [hl c, Keyed.put_of_eq hc] at clusters
      exact clusters
  | orchestrator r => exact hl.elim
  | _ => exact unchanged_of_other hf (fun _ _ e => by cases e) (fun _ e => by cases e) h

/-! ## Histories of looks -/

/-- Looks leave the clusters, also where faults strike. -/
theorem clusters_of_looks {call : Call} {x : call.Answer} (hl : call.looks) (h : answer call s = (x, t)) :
    t.clusters = s.clusters := by
  have other (hc : ∀ region r, call ≠ .cluster region r) : t.clusters = s.clusters := by
    have kept := answer_clusters hc s
    rw [h] at kept
    exact kept
  cases call with
  | cluster region r =>
    rcases answer_cluster h with ⟨f, -, same, -⟩ | ⟨c, hc, -, put⟩ | ⟨c, f, hc, -, -, put⟩
    · exact same
    · rw [put, hl c, Keyed.put_of_eq hc]
    · rw [put, hl c, Keyed.put_of_eq hc]
  | orchestrator r => exact hl.elim
  | _ => exact other fun _ _ e => by cases e

/-- The cluster of a region is seen by looks as it is, if they succeed. -/
theorem told_of_looks {past : History} {region : String} {c : ClusterState}
    (replays : Program.Replays (I := collaborators) answer s past t) (looks : ∀ e ∈ past, Call.looks e.request)
    (hc : s.clusters region = some c) : t.clusters = s.clusters ∧
      ∀ r a, Exchange.cluster region r (.ok a) ∈ past → (c.answer region r).1 = .ok a := by
  induction replays with
  | nil => exact ⟨rfl, fun _ _ mem => by cases mem⟩
  | @cons past t call _ ih =>
    obtain ⟨look, looks⟩ := List.forall_mem_cons.mp looks
    obtain ⟨same, told⟩ := ih looks
    refine ⟨(clusters_of_looks look rfl).trans same, fun r a mem => ?_⟩
    rcases List.mem_cons.mp mem with latest | mem
    · obtain ⟨rfl, answered⟩ := Program.Exchange.mk.inj latest
      obtain ⟨c', hc', told', -⟩ := answer_cluster_ok (Prod.ext (eq_of_heq answered).symm rfl)
      rw [same, hc] at hc'
      cases hc'
      exact told'
    · exact told r a mem

/-- Where no fault is, all looks are answered as the cluster answers. -/
theorem answered_of_looks {past : History} {region : String} {c : ClusterState} (hf : s.faults = [])
    (replays : Program.Replays (I := collaborators) answer s past t) (looks : ∀ e ∈ past, Call.looks e.request)
    (hc : s.clusters region = some c) : Unchanged s t ∧
      ∀ r x, Exchange.cluster region r x ∈ past → x = (c.answer region r).1 := by
  induction replays with
  | nil => exact ⟨⟨hf, rfl, rfl⟩, fun _ _ mem => by cases mem⟩
  | @cons past t call _ ih =>
    obtain ⟨look, looks⟩ := List.forall_mem_cons.mp looks
    obtain ⟨same, answered⟩ := ih looks
    refine ⟨same.trans (unchanged_of_looks look same.faults rfl), fun r x mem => ?_⟩
    rcases List.mem_cons.mp mem with latest | mem
    · obtain ⟨rfl, latest⟩ := Program.Exchange.mk.inj latest
      exact (cluster_faultless same.faults (same.clusters ▸ hc) (Prod.ext (eq_of_heq latest).symm rfl)).1
    · exact answered r x mem

/-! ## Runs with their exchanges -/

section

open Service

variable {α : Type} {P : Site × History → Call → Prop} {bad : Failure → Site × History → Prop} {u : Site × History}

/-- A cluster is asked and does what it is asked. -/
theorem ensures_cluster_faultless {region : String} {r : Hypervisor.Request} {good : r.Answer → Site × History → Prop}
    {c : ClusterState} (hf : u.1.faults = []) (hc : u.1.clusters region = some c) (hP : P u (.cluster region r))
    (next : ∀ v : Site × History, v.1.faults = [] →
      v.1.clusters = u.1.clusters.put region (some (c.answer region r).2) → v.1.orchestrator = u.1.orchestrator →
      v.2 = Exchange.cluster region r (c.answer region r).1 :: u.2 → onOutcome good bad (c.answer region r).1 v) :
    Ensures recorded P (cluster region r) good bad u := by
  refine ensures_cluster.mpr ⟨hP, fun x v e => ?_⟩
  obtain ⟨answered, past⟩ := recorded_eq.mp e
  obtain ⟨rfl, clusters⟩ := cluster_faultless hf hc answered
  exact next v (answer_faultless hf answered) clusters (orchestrator_cluster answered) past

/-- A cluster is asked for something that changes nothing, or there is none to ask. -/
theorem ensures_look {region : String} {r : Hypervisor.Request} {good : r.Answer → Site × History → Prop}
    (hf : u.1.faults = []) (keeps : ∀ c : ClusterState, (c.answer region r).2 = c) (hP : P u (.cluster region r))
    (there : ∀ c, u.1.clusters region = some c → ∀ v : Site × History, Unchanged u.1 v.1 →
      v.2 = Exchange.cluster region r (c.answer region r).1 :: u.2 → onOutcome good bad (c.answer region r).1 v)
    (absent : u.1.clusters region = none → ∀ v : Site × History, Unchanged u.1 v.1 →
      v.2 = Exchange.cluster region r (.error (.regionNotFound region)) :: u.2 → bad (.regionNotFound region) v) :
    Ensures recorded P (cluster region r) good bad u := by
  cases hc : u.1.clusters region with
  | some c =>
    refine ensures_cluster_faultless hf hc hP fun v faults clusters orchestrator past => ?_
    rw [keeps c, Keyed.put_of_eq hc] at clusters
    exact there c hc v ⟨faults, clusters, orchestrator⟩ past
  | none =>
    refine ensures_cluster.mpr ⟨hP, fun x v e => ?_⟩
    obtain ⟨answered, past⟩ := recorded_eq.mp e
    obtain ⟨rfl, clusters⟩ := cluster_absent hf hc answered
    exact absent hc v ⟨answer_faultless hf answered, clusters, orchestrator_cluster answered⟩ past

/-- The orchestrator is asked and does what it is asked. -/
theorem ensures_orchestrator_faultless {r : Orchestrator.Request} {good : r.Answer → Site × History → Prop}
    (hf : u.1.faults = []) (hP : P u (.orchestrator r))
    (next : ∀ v : Site × History, v.1.faults = [] → v.1.clusters = u.1.clusters →
      v.1.orchestrator = (u.1.orchestrator.answer r).2 →
      v.2 = Exchange.orchestrator r (u.1.orchestrator.answer r).1 :: u.2 →
      onOutcome good bad (u.1.orchestrator.answer r).1 v) :
    Ensures recorded P (Service.orchestrator r) good bad u := by
  refine ensures_orchestrator.mpr ⟨hP, fun x v e => ?_⟩
  obtain ⟨answered, past⟩ := recorded_eq.mp e
  obtain ⟨rfl, kept⟩ := orchestrator_faultless hf answered
  exact next v (answer_faultless hf answered) (clusters_orchestrator answered) kept past

/-- A service that only looks changes nothing. -/
theorem unchanged_of_asks {service : Service α} (h : service.Asks Call.looks) (hf : u.1.faults = []) :
    Ensures recorded (fun _ _ => True) service (fun _ v => Unchanged u.1 v.1) (fun _ v => Unchanged u.1 v.1) u := by
  refine h.ensures (K := fun v => Unchanged u.1 v.1) remembers_recorded (fun _ _ _ _ => trivial)
    (fun v call x w hl hv e => ?_) ⟨hf, rfl, rfl⟩
  exact hv.trans (unchanged_of_looks hl hv.faults (recorded_eq.mp e).1)

/-- A service runs under a lock, which changes nothing that is kept. -/
theorem ensures_holding_faultless {key : String} {service : Service α} {good : α → Site × History → Prop}
    (hf : u.1.faults = []) (hP : ∀ v : Site × History, P v (.acquire key) ∧ P v (.release key))
    (run : ∀ v : Site × History, Unchanged u.1 v.1 → v.2 = ⟨.acquire key, ()⟩ :: u.2 → Ensures recorded P service
      (fun a w => w.1.faults = [] ∧
        ∀ z : Site × History, Unchanged w.1 z.1 → z.2 = ⟨.release key, ()⟩ :: w.2 → good a z)
      (fun f w => w.1.faults = [] ∧
        ∀ z : Site × History, Unchanged w.1 z.1 → z.2 = ⟨.release key, ()⟩ :: w.2 → bad f z) v) :
    Ensures recorded P (Service.holding key service) good bad u := by
  have released {w z : Site × History} {y : Unit} (faults : w.1.faults = []) (e : recorded w (.release key) y z) :
      Unchanged w.1 z.1 ∧ z.2 = ⟨.release key, ()⟩ :: w.2 := by
    obtain ⟨answered, past⟩ := recorded_eq.mp e
    exact ⟨unchanged_of_other faults (fun _ _ e => by cases e) (fun _ e => by cases e) answered, past⟩
  refine Ensures.holding (hP u).1 fun x v e => ?_
  obtain ⟨answered, past⟩ := recorded_eq.mp e
  have unchanged := unchanged_of_other hf (fun _ _ e => by cases e) (fun _ e => by cases e) answered
  refine (run v unchanged past).post (fun a w hw => ⟨(hP w).2, fun y z e => ?_⟩)
    fun f w hw => ⟨(hP w).2, fun y z e => ?_⟩
  · obtain ⟨same, last⟩ := released hw.1 e
    exact hw.2 z same last
  · obtain ⟨same, last⟩ := released hw.1 e
    exact hw.2 z same last

end

end Site

end ClusterVolumes
