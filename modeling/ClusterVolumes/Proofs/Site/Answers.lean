import ClusterVolumes.Site
import ClusterVolumes.Proofs.History

/-!
# How a site answers

A call may be struck by a fault before it has its effect or afterwards, so there are three ways in which a site
answers: it refuses, it does what is asked and says so, or it does what is asked and is not heard. `ClusterStep` and
`OrchestratorStep` name them (`answer_cluster`, `answer_orchestrator`). A call changes nothing but its collaborator,
and no new fault comes up (`answer_strikes`).
-/

namespace ClusterVolumes

namespace Site

/-! ## Faults -/

/-- Some fault of the site may strike with a failure. -/
def Strikes (s : Site) (f : Failure) : Prop :=
  ∃ fault ∈ s.faults, fault.failure = f

namespace Fault

/-- Faults strike with their own failures only. -/
theorem strike_own (c : Call) : ∀ (l : List Fault) (late : Option Failure),
    (∀ f, (strike c l late).1 = .before f → ∃ g ∈ l, g.failure = f) ∧
      ∀ f, (strike c l late).1 = .afterwards f → late = some f ∨ ∃ g ∈ l, g.failure = f
  | [], none => by simp [strike]
  | [], some failure => by simp [strike]
  | g :: fs, late => by
    have own : ∀ late', (∀ f, late' = some f → late = some f ∨ g.failure = f) →
        (∀ f, (strike c fs late').1 = .before f → ∃ g' ∈ g :: fs, g'.failure = f) ∧
          ∀ f, (strike c fs late').1 = .afterwards f → late = some f ∨ ∃ g' ∈ g :: fs, g'.failure = f := by
      intro late' hlate
      obtain ⟨hb, ha⟩ := strike_own c fs late'
      refine ⟨fun f h => ?_, fun f h => ?_⟩
      · obtain ⟨g', hg', e⟩ := hb f h
        exact ⟨g', List.mem_cons_of_mem _ hg', e⟩
      · rcases ha f h with h | ⟨g', hg', e⟩
        · exact (hlate f h).imp_right fun e => ⟨g, List.mem_cons_self, e⟩
        · exact .inr ⟨g', List.mem_cons_of_mem _ hg', e⟩
    unfold strike
    split
    · split
      · split
        · refine own _ fun f h => ?_
          cases late with
          | none => exact .inr (Option.some.inj h)
          | some f' => exact .inl h
        · exact ⟨fun f h => ⟨g, List.mem_cons_self, by cases h; rfl⟩, fun f h => nomatch h⟩
      · exact own late fun f h => .inl h
    · exact own late fun f h => .inl h

/-- Faults that were asked stay the same but for their counts. -/
theorem strike_rest {β : Type} (view : Fault → β) (counts : ∀ (g : Fault) n, view { g with seen := n } = view g)
    (c : Call) : ∀ (l : List Fault) (late : Option Failure), (strike c l late).2.map view = l.map view
  | [], none => rfl
  | [], some _ => rfl
  | g :: fs, late => by
    unfold strike
    split
    · split
      · split
        · simp only [List.map_cons, counts g, strike_rest view counts c fs]
        · simp only [List.map_cons, counts g]
      · simp only [List.map_cons, counts g, strike_rest view counts c fs]
    · simp only [List.map_cons, strike_rest view counts c fs]

/-- Faults that concern other calls do nothing to a call. -/
theorem strike_spared {c : Call} : ∀ {l : List Fault}, (∀ g ∈ l, g.concerns c = false) → strike c l none = (.spared, l)
  | [], _ => rfl
  | g :: fs, h => by
    have other : ¬g.concerns c = true := by simp [h g List.mem_cons_self]
    have rest := strike_spared (l := fs) fun g' mem => h g' (List.mem_cons_of_mem g mem)
    rw [strike, if_neg other, rest]

end Fault

/-- The site with a call counted and logged. -/
def noted (c : Call) (s : Site) : Site :=
  { s with faults := (Fault.strike c s.faults none).2, log := c :: s.log }

/-- What becomes of a call hangs on what the faults do to it. -/
theorem serve_eq {α : Type} (c : Call) (effect : Site → Except Failure α × Site) (s : Site) :
    s.serve c effect = match (Fault.strike c s.faults none).1 with
      | .spared => effect (s.noted c)
      | .before f => (.error f, s.noted c)
      | .afterwards f => ((effect (s.noted c)).1.bind fun _ => .error f, (effect (s.noted c)).2) := rfl

/-- A call is refused, has its effect, or has its effect unheard. -/
theorem serve_cases {α : Type} (c : Call) (effect : Site → Except Failure α × Site) (s : Site) :
    (∃ f, s.Strikes f ∧ s.serve c effect = (.error f, s.noted c)) ∨
      s.serve c effect = effect (s.noted c) ∨
      ∃ f, s.Strikes f ∧ s.serve c effect = (.error f, (effect (s.noted c)).2) := by
  obtain ⟨hb, ha⟩ := Fault.strike_own c s.faults none
  rw [serve_eq]
  cases h : (Fault.strike c s.faults none).1 with
  | spared => exact .inr (.inl rfl)
  | before f => exact .inl ⟨f, hb f h, rfl⟩
  | afterwards f =>
    have strikes : s.Strikes f := (ha f h).resolve_left fun e => nomatch e
    obtain ⟨outcome, t⟩ := effect (s.noted c)
    cases outcome with
    | error f' => exact .inr (.inl rfl)
    | ok a => exact .inr (.inr ⟨f, strikes, rfl⟩)

/-! ## Steps of the collaborators -/

/-- What comes of a request to a cluster. -/
inductive ClusterStep (s : Site) (region : String) (r : Hypervisor.Request) (x : Except Failure r.Answer)
    (t : Site) : Prop
  | refused (f : Failure) : x = .error f → t.clusters = s.clusters →
      (s.Strikes f ∨ s.clusters region = none ∧ f = .regionNotFound region) → ClusterStep s region r x t
  | done (c : ClusterState) : s.clusters region = some c → x = (c.answer region r).1 →
      t.clusters = s.clusters.put region (some (c.answer region r).2) → ClusterStep s region r x t
  | unheard (c : ClusterState) (f : Failure) : s.clusters region = some c → x = .error f → s.Strikes f →
      t.clusters = s.clusters.put region (some (c.answer region r).2) → ClusterStep s region r x t

/-- What comes of a request to the orchestrator. -/
inductive OrchestratorStep (s : Site) (r : Orchestrator.Request) (x : Except Failure r.Answer) (t : Site) : Prop
  | refused (f : Failure) : x = .error f → t.orchestrator = s.orchestrator → OrchestratorStep s r x t
  | done : x = (s.orchestrator.answer r).1 → t.orchestrator = (s.orchestrator.answer r).2 → OrchestratorStep s r x t
  | unheard (f : Failure) : x = .error f → t.orchestrator = (s.orchestrator.answer r).2 → OrchestratorStep s r x t

variable {s t : Site}

/-- What a request does to the clusters of a site. -/
def askCluster (region : String) (r : Hypervisor.Request) (s : Site) : Except Failure r.Answer × Site :=
  match s.clusters region with
  | none => (.error (.regionNotFound region), s)
  | some c => ((c.answer region r).1, { s with clusters := s.clusters.put region (some (c.answer region r).2) })

theorem answer_cluster {region : String} {r : Hypervisor.Request} {x : Except Failure r.Answer}
    (h : answer (.cluster region r) s = (x, t)) : ClusterStep s region r x t := by
  change s.serve (.cluster region r) (askCluster region r) = (x, t) at h
  rcases serve_cases (.cluster region r) (askCluster region r) s with ⟨f, hf, e⟩ | e | ⟨f, hf, e⟩
  · obtain ⟨rfl, rfl⟩ := Prod.mk.inj (e.symm.trans h)
    exact .refused f rfl rfl (.inl hf)
  · rw [e] at h
    cases hc : s.clusters region with
    | none =>
      obtain ⟨rfl, rfl⟩ : .error (.regionNotFound region) = x ∧ s.noted (.cluster region r) = t := by
        simpa [askCluster, noted, hc] using h
      exact .refused _ rfl rfl (.inr ⟨hc, rfl⟩)
    | some c =>
      obtain ⟨rfl, rfl⟩ := by simpa [askCluster, noted, hc] using h
      exact .done c hc rfl rfl
  · rw [e] at h
    obtain ⟨rfl, ht⟩ := Prod.mk.inj h
    cases hc : s.clusters region with
    | none => exact .refused f rfl (by rw [← ht]; simp [askCluster, noted, hc]) (.inl hf)
    | some c => exact .unheard c f hc rfl hf (by rw [← ht]; simp [askCluster, noted, hc])

/-- A cluster that no fault keeps from it does what it is asked. -/
theorem cluster_spared {region : String} {r : Hypervisor.Request} {x : Except Failure r.Answer}
    (spared : ∀ fault ∈ s.faults, fault.concerns (.cluster region r) = false)
    (h : answer (.cluster region r) s = (x, t)) :
    (∃ c, s.clusters region = some c ∧ x = (c.answer region r).1 ∧
      t.clusters = s.clusters.put region (some (c.answer region r).2)) ∨
      s.clusters region = none ∧ x = .error (.regionNotFound region) ∧ t.clusters = s.clusters := by
  change s.serve (.cluster region r) (askCluster region r) = (x, t) at h
  rw [serve_eq, Fault.strike_spared spared] at h
  cases hc : s.clusters region with
  | none =>
    obtain ⟨rfl, rfl⟩ : .error (.regionNotFound region) = x ∧ s.noted (.cluster region r) = t := by
      simpa [askCluster, noted, hc] using h
    exact .inr ⟨rfl, rfl, rfl⟩
  | some c =>
    obtain ⟨rfl, rfl⟩ := by simpa [askCluster, noted, hc] using h
    exact .inl ⟨c, rfl, rfl, rfl⟩

/-- What a request does to the orchestrator of a site. -/
def askOrchestrator (r : Orchestrator.Request) (s : Site) : Except Failure r.Answer × Site :=
  ((s.orchestrator.answer r).1, { s with orchestrator := (s.orchestrator.answer r).2 })

theorem answer_orchestrator {r : Orchestrator.Request} {x : Except Failure r.Answer}
    (h : answer (.orchestrator r) s = (x, t)) : OrchestratorStep s r x t := by
  change s.serve (.orchestrator r) (askOrchestrator r) = (x, t) at h
  rcases serve_cases (.orchestrator r) (askOrchestrator r) s with ⟨f, -, e⟩ | e | ⟨f, -, e⟩
  · obtain ⟨rfl, rfl⟩ := Prod.mk.inj (e.symm.trans h)
    exact .refused f rfl rfl
  · obtain ⟨rfl, rfl⟩ := Prod.mk.inj (e.symm.trans h)
    exact .done rfl rfl
  · obtain ⟨rfl, rfl⟩ := Prod.mk.inj (e.symm.trans h)
    exact .unheard f rfl rfl

/-- A cluster that says so has done what was asked. -/
theorem answer_cluster_ok {region : String} {r : Hypervisor.Request} {a : r.Answer}
    (h : answer (.cluster region r) s = (.ok a, t)) : ∃ c, s.clusters region = some c ∧
      (c.answer region r).1 = .ok a ∧ t.clusters = s.clusters.put region (some (c.answer region r).2) := by
  rcases answer_cluster h with ⟨f, e, _⟩ | ⟨c, hc, e, ht⟩ | ⟨c, f, _, e, _⟩
  · cases e
  · exact ⟨c, hc, e.symm, ht⟩
  · cases e

/-- An orchestrator that says so has done what was asked. -/
theorem answer_orchestrator_ok {r : Orchestrator.Request} {a : r.Answer}
    (h : answer (.orchestrator r) s = (.ok a, t)) :
    (s.orchestrator.answer r).1 = .ok a ∧ t.orchestrator = (s.orchestrator.answer r).2 := by
  rcases answer_orchestrator h with ⟨f, e, _⟩ | ⟨e, ht⟩ | ⟨f, e, _⟩
  · cases e
  · exact ⟨e.symm, ht⟩
  · cases e

/-! ## What a call leaves -/

/-- What neither counting a call nor its effect changes, serving it does not change. -/
theorem serve_keeps {α β : Type} (view : Site → β) {c : Call} {effect : Site → Except Failure α × Site}
    (hn : ∀ s : Site, view (s.noted c) = view s) (he : ∀ s, view (effect s).2 = view s) (s : Site) :
    view (s.serve c effect).2 = view s := by
  rcases serve_cases c effect s with ⟨f, -, e⟩ | e | ⟨f, -, e⟩ <;> rw [e]
  · exact hn s
  · exact (he _).trans (hn s)
  · exact (he _).trans (hn s)

theorem askCluster_keeps {β : Type} (view : Site → β)
    (h : ∀ (s : Site) clusters, view { s with clusters := clusters } = view s) (region : String)
    (r : Hypervisor.Request) (s : Site) : view (askCluster region r s).2 = view s := by
  unfold askCluster
  split
  · rfl
  · exact h s _

/-- A call of another kind leaves the clusters. -/
theorem answer_clusters {c : Call} (hc : ∀ region r, c ≠ .cluster region r) (s : Site) :
    (answer c s).2.clusters = s.clusters := by
  cases c with
  | cluster region r => exact absurd rfl (hc region r)
  | orchestrator r => exact serve_keeps (·.clusters) (fun _ => rfl) (fun _ => rfl) s
  | mounts r => exact serve_keeps (·.clusters) (fun _ => rfl) (fun _ => rfl) s
  | _ => rfl

/-- A call of another kind leaves the orchestrator. -/
theorem answer_records {c : Call} (hc : ∀ r, c ≠ .orchestrator r) (s : Site) :
    (answer c s).2.orchestrator = s.orchestrator := by
  cases c with
  | cluster region r =>
    exact serve_keeps (·.orchestrator) (fun _ => rfl) (askCluster_keeps _ (fun _ _ => rfl) region r) s
  | orchestrator r => exact absurd rfl (hc r)
  | mounts r => exact serve_keeps (·.orchestrator) (fun _ => rfl) (fun _ => rfl) s
  | _ => rfl

/-- What is told of faults and does not hang on their counts, no call changes. -/
theorem answer_faults {K : List Fault → Prop} (counted : ∀ c l, K (Fault.strike c l none).2 = K l) {c : Call}
    {x : c.Answer} (h : answer c s = (x, t)) : K t.faults ↔ K s.faults := by
  have noted : ∀ (c : Call) (s : Site), K (s.noted c).faults = K s.faults := fun c s => counted c s.faults
  have kept : K (answer c s).2.faults = K s.faults := by
    cases c with
    | cluster region r =>
      exact serve_keeps (fun s => K s.faults) (noted _)
        (askCluster_keeps (fun s => K s.faults) (fun _ _ => rfl) region r) s
    | orchestrator r => exact serve_keeps (fun s => K s.faults) (noted _) (fun _ => rfl) s
    | mounts r => exact serve_keeps (fun s => K s.faults) (noted _) (fun _ => rfl) s
    | _ => rfl
  rw [h] at kept
  exact kept.to_iff

/-- What is so of every fault and does not hang on counts, stays so. -/
theorem answer_faults_forall {β : Type} (view : Fault → β) (counts : ∀ (g : Fault) n, view { g with seen := n } = view g)
    (P : β → Prop) {c : Call} {x : c.Answer} (h : answer c s = (x, t)) :
    (∀ g ∈ t.faults, P (view g)) ↔ ∀ g ∈ s.faults, P (view g) := by
  have mem : ∀ l : List Fault, (∀ g ∈ l, P (view g)) = ∀ b ∈ l.map view, P b := fun l => by simp
  refine answer_faults (K := fun l => ∀ g ∈ l, P (view g)) (fun c l => ?_) h
  rw [mem, mem, Fault.strike_rest view counts]

/-- No call brings up a new fault. -/
theorem answer_strikes {c : Call} {x : c.Answer} (h : answer c s = (x, t)) (f : Failure) :
    t.Strikes f ↔ s.Strikes f := by
  have mem : ∀ l : List Fault, (∃ g ∈ l, g.failure = f) = (f ∈ l.map Fault.failure) := fun l => by simp
  refine answer_faults (K := fun l => ∃ g ∈ l, g.failure = f) (fun c l => ?_) h
  rw [mem, mem, Fault.strike_rest Fault.failure (fun _ _ => rfl)]

/-! ## What every call keeps -/

/-- What requests keep of the orchestrator, calls keep of the site's. -/
theorem answer_keeps_orchestrator {K : OrchestratorState → Prop} {c : Call} {x : c.Answer}
    (h : answer c s = (x, t)) (hs : K s.orchestrator)
    (hK : ∀ r, c = .orchestrator r → K (s.orchestrator.answer r).2) : K t.orchestrator := by
  by_cases hc : ∃ r, c = .orchestrator r
  · obtain ⟨r, rfl⟩ := hc
    rcases answer_orchestrator h with ⟨f, _, e⟩ | ⟨_, e⟩ | ⟨f, _, e⟩ <;> rw [e]
    · exact hs
    · exact hK r rfl
    · exact hK r rfl
  · have e := answer_records (fun r e => hc ⟨r, e⟩) s
    rw [h] at e
    exact e ▸ hs

/-- What requests keep of the clusters, calls keep of the site's. -/
theorem answer_keeps_clusters {K : Keyed String ClusterState → Prop} {call : Call} {x : call.Answer}
    (h : answer call s = (x, t)) (hs : K s.clusters)
    (hK : ∀ region r c, call = .cluster region r → s.clusters region = some c →
      K (s.clusters.put region (some (c.answer region r).2))) : K t.clusters := by
  by_cases hc : ∃ region r, call = .cluster region r
  · obtain ⟨region, r, rfl⟩ := hc
    rcases answer_cluster h with ⟨f, _, e, _⟩ | ⟨c, hc, _, e⟩ | ⟨c, f, hc, _, _, e⟩ <;> rw [e]
    · exact hs
    · exact hK region r c rfl hc
    · exact hK region r c rfl hc
  · have e := answer_clusters (fun region r e => hc ⟨region, r, e⟩) s
    rw [h] at e
    exact e ▸ hs

/-! ## Runs at a site -/

/-- The environment in which a site answers. -/
abbrev answering : Environment collaborators Site :=
  Program.ofHandler answer

/-- What is ensured at a site holds of the outcome of the service there. -/
theorem run_ended {α : Type} {service : Service α} {P : Site → Call → Prop} {good : α → Site → Prop}
    {bad : Failure → Site → Prop} {s : Site} (h : Service.Ensures answering P service good bad s) :
    onOutcome good bad (run service s).1 (run service s).2 :=
  (Program.ensures_ofHandler.mp h).2

/-- A service that can end with one failure only ends with it. -/
theorem run_fails {α : Type} {service : Service α} {P : Site → Call → Prop} {failure : Failure} {s : Site}
    (h : Service.Ensures answering P service (fun _ _ => False) (fun f _ => f = failure) s) :
    (run service s).1 = .error failure := by
  have ended := run_ended h
  cases e : (run service s).1 with
  | error f =>
    rw [e] at ended
    exact congrArg Except.error ended
  | ok a =>
    rw [e] at ended
    exact ended.elim

/-- What every answer keeps, a run keeps. -/
theorem run_keeps {α : Type} {K : Site → Prop} (hK : ∀ c s, K s → K (answer c s).2) (service : Service α) {s : Site}
    (hs : K s) : K (run service s).2 := by
  refine ((Program.ensures_ofHandler.mp ((Program.ensures_trivial (E := answering) (p := service.run)).and_invariant
    (K := K) (fun s c x t hs _ e => ?_) hs)).2).2
  have h := hK c s hs
  rw [show answer c s = (x, t) from e] at h
  exact h

/-- A region that has no cluster gets none. -/
theorem run_without {α : Type} (service : Service α) {region : String} (h : s.clusters region = none) :
    (run service s).2.clusters region = none := by
  refine run_keeps (K := fun u => u.clusters region = none) (fun call u hu => ?_) service h
  refine answer_keeps_clusters (K := fun f => f region = none) (t := (answer call u).2) rfl hu ?_
  rintro region' r c - hc
  refine (Keyed.put_of_ne _ _ fun he => ?_).trans hu
  rw [he] at hu
  exact nomatch hu.symm.trans hc

/-! ## A site with its history -/

/-- The environment in which a site answers and the exchanges are kept. -/
abbrev recorded : Environment collaborators (Site × History) :=
  Program.ofHandler (Program.recording answer)

theorem recorded_eq {s t : Site × History} {c : Call} {x : c.Answer} :
    recorded s c x t ↔ answer c s.1 = (x, t.1) ∧ t.2 = ⟨c, x⟩ :: s.2 :=
  Program.recording_eq

theorem remembers_recorded : Program.Remembers recorded Prod.snd :=
  Program.remembers_recording (I := collaborators) answer

/-- The exchanges of a service at a site from its beginning to its end, the latest first. -/
def exchanges {α : Type} (service : Service α) (s : Site) : History :=
  (service.run.run (Program.recording (I := collaborators) answer) (s, [])).2.2

/-- A run at a site is one in which any call may get any answer. -/
theorem runsTo_exchanges {α : Type} (service : Service α) (s : Site) :
    service.RunsTo Service.anyAnswers [] (run service s).1 (exchanges service s) := by
  have run := Program.runsTo_recording (I := collaborators) answer service.run s []
  rw [(Program.run_recording (I := collaborators) answer service.run s []).1] at run
  exact run

/-- The exchanges lead from the beginning of a run to its end. -/
theorem replays_exchanges {α : Type} (service : Service α) (s : Site) :
    Program.Replays (I := collaborators) answer s (exchanges service s) (run service s).2 := by
  have replays := Program.replays_run (I := collaborators) answer service.run s
  rw [(Program.run_recording (I := collaborators) answer service.run s []).2] at replays
  exact replays

/-- A run that ends well gives a value. -/
theorem run_of_isOk {α : Type} {service : Service α} (h : (run service s).1.isOk = true) :
    ∃ a t, run service s = (.ok a, t) := by
  cases hrun : run service s with
  | mk outcome t =>
    rw [hrun] at h
    cases outcome with
    | error f => cases h
    | ok a => exact ⟨a, t, rfl⟩

/-- What is ensured of the end of a service, of the site and of the exchanges, holds of its run. -/
theorem run_exchanges_ended {α : Type} {service : Service α} {P : Site × History → Call → Prop}
    {good : α → Site × History → Prop} {bad : Failure → Site × History → Prop}
    (h : Service.Ensures recorded P service good bad (s, [])) :
    onOutcome good bad (run service s).1 ((run service s).2, exchanges service s) := by
  have ended := (Program.ensures_ofHandler.mp h).2
  obtain ⟨outcome, site⟩ := Program.run_recording (I := collaborators) answer service.run s []
  have last : (service.run.run (Program.recording (I := collaborators) answer) (s, [])).2 =
      ((run service s).2, exchanges service s) := Prod.ext site rfl
  rw [outcome, last] at ended
  exact ended

/-- What is ensured at a site with its history holds of the run of the service there. -/
theorem run_ensures {α : Type} (P : Site → Call → Prop) (good : α → Site → Prop) (bad : Failure → Site → Prop)
    {service : Service α} (h : Service.Ensures recorded (fun t c => P t.1 c) service (fun a t => good a t.1)
      (fun f t => bad f t.1) (s, [])) :
    service.run.Always (I := collaborators) answer P s ∧ onOutcome good bad (run service s).1 (run service s).2 := by
  have joined : service.run.Ensures recorded (fun t c => P t.1 c) (fun o t => onOutcome good bad o t.1) (s, []) := by
    refine Program.Ensures.post h ?_
    rintro (f | a) t h <;> exact h
  exact Program.ensures_ofHandler.mp joined.unrecorded

end Site

end ClusterVolumes
