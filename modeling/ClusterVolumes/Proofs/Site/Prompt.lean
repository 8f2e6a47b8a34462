import ClusterVolumes.Proofs.Site.Faultless

/-!
# Sites whose faults strike first

A fault may strike a call after it had its effect. At a prompt site none does: a call that fails there has changed
nothing, or its collaborator has answered so. There are then two ways in which a call goes (`cluster_prompt`,
`orchestrator_prompt`), and the site stays prompt (`prompt_answer`). If all calls failed that would have changed disks,
the disks are as they were (`disks_of_failed`).
-/

namespace ClusterVolumes.Site

variable {s t : Site}

/-- Every fault strikes before the call has its effect. -/
def Prompt (s : Site) : Prop :=
  ∀ fault ∈ s.faults, fault.after = false

/-- A site stays prompt. -/
theorem prompt_answer {call : Call} {x : call.Answer} (hp : s.Prompt) (h : answer call s = (x, t)) : t.Prompt :=
  (answer_faults_forall Fault.after (fun _ _ => rfl) (· = false) h).mpr hp

/-- No call has its effect unheard. -/
theorem strike_prompt (c : Call) {l : List Fault} (h : ∀ g ∈ l, g.after = false) (f : Failure) :
    (Fault.strike c l none).1 ≠ .afterwards f := by
  induction l with
  | nil =>
    intro e
    cases e
  | cons g fs ih =>
    have first : g.after = false := h g List.mem_cons_self
    have rest := ih fun g' mem => h g' (List.mem_cons_of_mem g mem)
    unfold Fault.strike
    split
    · split
      · rw [first]
        intro e
        cases e
      · exact rest
    · exact rest

/-- A call is refused, or has its effect and is heard. -/
theorem serve_prompt {α : Type} (hp : s.Prompt) (c : Call) (effect : Site → Except Failure α × Site) :
    (∃ f, s.serve c effect = (.error f, s.noted c)) ∨ s.serve c effect = effect (s.noted c) := by
  rw [serve_eq]
  cases h : (Fault.strike c s.faults none).1 with
  | spared => exact .inr rfl
  | before f => exact .inl ⟨f, rfl⟩
  | afterwards f => exact absurd h (strike_prompt c hp f)

/-- A cluster does what it is asked, or the request fails and no cluster has changed. -/
theorem cluster_prompt {region : String} {r : Hypervisor.Request} {x : Except Failure r.Answer} (hp : s.Prompt)
    (h : answer (.cluster region r) s = (x, t)) : (∃ f, x = .error f ∧ t.clusters = s.clusters) ∨
      ∃ c, s.clusters region = some c ∧ x = (c.answer region r).1 ∧
        t.clusters = s.clusters.put region (some (c.answer region r).2) := by
  change s.serve (.cluster region r) (askCluster region r) = (x, t) at h
  rcases serve_prompt hp (.cluster region r) (askCluster region r) with ⟨f, e⟩ | e
  · obtain ⟨rfl, rfl⟩ := Prod.mk.inj (e.symm.trans h)
    exact .inl ⟨f, rfl, rfl⟩
  · rw [e] at h
    cases hc : s.clusters region with
    | none =>
      obtain ⟨rfl, rfl⟩ : .error (.regionNotFound region) = x ∧ s.noted (.cluster region r) = t := by
        simpa [askCluster, noted, hc] using h
      exact .inl ⟨_, rfl, rfl⟩
    | some c =>
      obtain ⟨rfl, rfl⟩ := by simpa [askCluster, noted, hc] using h
      exact .inr ⟨c, rfl, rfl, rfl⟩

/-- The orchestrator does what it is asked, or the request fails and it has not changed. -/
theorem orchestrator_prompt {r : Orchestrator.Request} {x : Except Failure r.Answer} (hp : s.Prompt)
    (h : answer (.orchestrator r) s = (x, t)) : (∃ f, x = .error f ∧ t.orchestrator = s.orchestrator) ∨
      x = (s.orchestrator.answer r).1 ∧ t.orchestrator = (s.orchestrator.answer r).2 := by
  change s.serve (.orchestrator r) (askOrchestrator r) = (x, t) at h
  rcases serve_prompt hp (.orchestrator r) (askOrchestrator r) with ⟨f, e⟩ | e
  · obtain ⟨rfl, rfl⟩ := Prod.mk.inj (e.symm.trans h)
    exact .inl ⟨f, rfl, rfl⟩
  · obtain ⟨rfl, rfl⟩ := Prod.mk.inj (e.symm.trans h)
    exact .inr ⟨rfl, rfl⟩

/-! ## Calls that failed -/

/-- A request that a cluster refuses changes nothing. -/
theorem ClusterState.answer_error {region : String} {r : Hypervisor.Request} {c : ClusterState} {f : Failure}
    (h : (c.answer region r).1 = .error f) : (c.answer region r).2 = c := by
  cases r with
  | resources kind => cases kind <;> cases h
  | storageStatus node storage => simp only [answer]; split <;> rfl
  | storageContent node storage => simp only [answer]; split <;> rfl
  | vmConfig node vmid => simp only [answer]; split <;> rfl
  | deleteDisk node storage volid =>
    simp only [answer] at h ⊢
    split at h
    · cases h
    · rename_i unlisted
      rw [if_neg unlisted]
  | copyVolume node storage volid target =>
    simp only [answer, copy] at h ⊢
    split at h
    · rename_i absent
      rw [if_pos absent]
    · rename_i there
      rw [if_neg there]
      split at h
      · rename_i lands
        rw [if_pos lands]
        split at h
        · rfl
        · cases h
      · cases h
  | taskStatus node task =>
    simp only [answer, look] at h ⊢
    split at h
    · rfl
    · split at h <;> cases h
  | _ => cases h

/-- If all calls failed that would have changed disks, the disks are as they were. -/
theorem disks_of_failed {made : History} (hp : s.Prompt) (H : Program.Replays (I := collaborators) answer s made t)
    (failed : ∀ region r x, Exchange.cluster region r x ∈ made → r.mutates = true → ∃ f, x = .error f) :
    t.Prompt ∧ ∀ region, (t.clusters region).map ClusterState.disks = (s.clusters region).map ClusterState.disks := by
  induction H with
  | nil => exact ⟨hp, fun _ => rfl⟩
  | @cons past u call H ih =>
    obtain ⟨prompt, same⟩ := ih fun region r x mem => failed region r x (List.mem_cons_of_mem _ mem)
    have answered : answer call u = ((answer call u).1, (answer call u).2) := rfl
    refine ⟨prompt_answer prompt answered, fun region => Eq.trans ?_ (same region)⟩
    by_cases asked : ∃ region r, call = .cluster region r
    · obtain ⟨region', r, rfl⟩ := asked
      rcases cluster_prompt prompt answered with ⟨f, -, kept⟩ | ⟨c, there, x, put⟩
      · rw [kept]
      · have disks : (c.answer region' r).2.disks = c.disks := by
          by_cases mutates : r.mutates = true
          · obtain ⟨f, e⟩ := failed region' r _ List.mem_cons_self mutates
            rw [ClusterState.answer_error (x.symm.trans e)]
          · exact ClusterState.disks_answer (by simpa using mutates)
        rw [put]
        by_cases own : region = region'
        · rw [own, Keyed.put_self, there]
          exact congrArg some disks
        · rw [Keyed.put_of_ne _ _ own]
    · rw [answer_clusters fun region r e => asked ⟨region, r, e⟩]

end ClusterVolumes.Site
