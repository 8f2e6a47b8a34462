import ClusterVolumes.Maintenance.Rebind
import ClusterVolumes.Proofs.Maintenance.Preparation

/-!
# Volumes outlive the claims that are rebuilt

A claim that is renamed or swapped is deleted and made anew. Its volume is to outlive this, so it is put on the policy
`retained` first and back on its own at the end. This goes through three states: no claim was deleted (`Still`), the
volumes of the plan are retained (`Held`), all new claims were seen bound (`History.SeenBound`). Each loop over the plan
keeps its state or leads to the next one, and `Safe` says that one of them is there (`rebind_ensures`).

A plan is made from bound claims that were found before, and nothing that comes in between changes what a claim asks for
(`Prepared`). So what holds of a plan holds of the volumes that the claims had at the beginning
(`rebuilding_runs_safely`).
-/

namespace ClusterVolumes

open Orchestrator
open Service

/-- Does the call delete a claim? -/
def Call.deletesClaim : Call → Bool
  | .orchestrator (.deleteClaim ..) => true
  | _ => false

theorem Call.deletesClaim_of_isPreparing {c : Call} (h : c.isPreparing = true) : c.deletesClaim = false := by
  cases c with
  | orchestrator r => cases r <;> first | rfl | cases h
  | _ => rfl

/-- A claim of a name was made, and was then seen bound. -/
def History.SeenBound (space name : String) (past : History) : Prop :=
  ∃ (later earlier : History) (c made seen : Claim),
    past = later ++ Exchange.orchestrator (.createClaim space c) (.ok made) :: earlier ∧ c.name = name ∧
      Exchange.orchestrator (.claim space name) (.ok (some seen)) ∈ later ∧ seen.isBound = true

/-- A claim of a name was made. -/
def History.Made (space name : String) (past : History) : Prop :=
  ∃ c made, Exchange.orchestrator (.createClaim space c) (.ok made) ∈ past ∧ c.name = name

namespace History

variable {space name : String} {past : History}

theorem Made.later (h : past.Made space name) (e : Program.Exchange collaborators) : Made space name (e :: past) := by
  obtain ⟨c, made, hmem, hn⟩ := h
  exact ⟨c, made, List.mem_cons_of_mem _ hmem, hn⟩

theorem SeenBound.later (h : past.SeenBound space name) (e : Program.Exchange collaborators) :
    SeenBound space name (e :: past) := by
  obtain ⟨later, earlier, c, made, seen, rfl, hn, hmem, hb⟩ := h
  exact ⟨e :: later, earlier, c, made, seen, rfl, hn, List.mem_cons_of_mem _ hmem, hb⟩

/-- A claim that was made is seen bound when a look finds it so. -/
theorem Made.seenBound (h : past.Made space name) {seen : Claim} (hb : seen.isBound = true) :
    SeenBound space name (Exchange.orchestrator (.claim space name) (.ok (some seen)) :: past) := by
  obtain ⟨c, made, hmem, hn⟩ := h
  obtain ⟨later, earlier, rfl⟩ := List.append_of_mem hmem
  exact ⟨_ :: later, earlier, c, made, seen, rfl, hn, List.mem_cons_self, hb⟩

end History

/-! ## Steps at a site -/

section

variable {t u : Site × History} {call : Call} {x : call.Answer}

theorem named_step (h : t.1.orchestrator.Named) (e : Site.recorded t call x u) : u.1.orchestrator.Named :=
  Site.answer_keeps_orchestrator (Site.recorded_eq.mp e).1 h fun _ _ => Site.OrchestratorState.named_answer h

/-- A call that writes no volume, or writes one as retained, leaves a volume retained. -/
theorem retained_step {name : String} (h : t.1.orchestrator.Retained name) (e : Site.recorded t call x u)
    (hc : ∀ r, call = .orchestrator r → r.writesVolume = false ∨
      ∃ v, r = .replaceVolume v ∧ v.policy? = some Maintenance.retained) : u.1.orchestrator.Retained name :=
  Site.answer_keeps_orchestrator (K := fun o => o.Retained name) (Site.recorded_eq.mp e).1 h fun r hr =>
    Site.OrchestratorState.retained_answer h (hc r hr)

/-- A look at a volume leaves the orchestrator, and tells of the volume as it is. -/
theorem Maintenance.volumeRecord_atSite {P : Site × History → Call → Prop} {good : VolumeRecord → Site × History → Prop}
    {bad : Failure → Site × History → Prop} (name : String) (hP : P t (.orchestrator (.volume name)))
    (hg : ∀ v u y, t.1.orchestrator.volumes name = some v → u.1.orchestrator = t.1.orchestrator →
      Site.recorded t (.orchestrator (.volume name)) y u → good v u)
    (hb : ∀ f u y, u.1.orchestrator = t.1.orchestrator → Site.recorded t (.orchestrator (.volume name)) y u → bad f u) :
    Ensures Site.recorded P (volumeRecord name) good bad t := by
  refine ensures_bind.mpr (ensures_orchestrator.mpr ⟨hP, fun y u e => ?_⟩)
  have same : u.1.orchestrator = t.1.orchestrator :=
    Site.answer_keeps_orchestrator (K := fun o => o = t.1.orchestrator) (Site.recorded_eq.mp e).1 rfl
      fun r hr => by cases hr; rfl
  cases y with
  | error f => exact hb f u _ same e
  | ok found =>
    have told : t.1.orchestrator.volumes name = found :=
      Except.ok.inj (Site.answer_orchestrator_ok (Site.recorded_eq.mp e).1).1
    exact ensures_require.mpr ⟨fun v hv => hg v u _ (told.trans hv) same e, fun _ => hb _ u _ same e⟩

end

namespace Maintenance

/-! ## What is kept while claims are rebuilt -/

/-- Every volume of a plan is there and retained. -/
def AllRetained (plan : List Rebinding) (s : Site) : Prop :=
  ∀ r ∈ plan, s.orchestrator.Retained r.volume.name

/-- No claim was deleted, or the volumes of a plan are retained, or its claims were seen bound. -/
def Safe (space : String) (plan : List Rebinding) (t : Site × History) : Prop :=
  t.2.Without Call.deletesClaim ∨ AllRetained plan t.1 ∨ ∀ r ∈ plan, t.2.SeenBound space r.name

/-- Claims are deleted only while the volumes of a plan are retained, and nothing is called unless it is safe. -/
def Guarded (space : String) (plan : List Rebinding) (t : Site × History) (call : Call) : Prop :=
  (call.deletesClaim = true → AllRetained plan t.1) ∧ Safe space plan t

/-- No claim was deleted so far. -/
structure Still (t : Site × History) : Prop where
  undeleted : t.2.Without Call.deletesClaim
  named : t.1.orchestrator.Named

/-- The volumes of a plan are retained. -/
structure Held (plan : List Rebinding) (t : Site × History) : Prop where
  retained : AllRetained plan t.1
  named : t.1.orchestrator.Named

section

variable {space : String} {plan : List Rebinding} {t u : Site × History} {call : Call} {x : call.Answer}

theorem Still.guarded (h : Still t) (hc : call.deletesClaim = false) : Guarded space plan t call :=
  ⟨fun hd => absurd hd (by simp [hc]), .inl h.undeleted⟩

theorem Held.guarded (h : Held plan t) (call : Call) : Guarded space plan t call :=
  ⟨fun _ => h.retained, .inr (.inl h.retained)⟩

theorem Held.safe (h : Held plan t) : Safe space plan t :=
  .inr (.inl h.retained)

theorem Still.step (h : Still t) (hc : call.deletesClaim = false) (e : Site.recorded t call x u) : Still u where
  undeleted := (Site.recorded_eq.mp e).2 ▸ History.without_cons hc h.undeleted
  named := named_step h.named e

theorem Held.step (h : Held plan t) (e : Site.recorded t call x u)
    (hc : ∀ r, call = .orchestrator r → r.writesVolume = false ∨
      ∃ v, r = .replaceVolume v ∧ v.policy? = some Maintenance.retained) : Held plan u where
  retained := fun r hr => retained_step (h.retained r hr) e hc
  named := named_step h.named e

/-! ## Retaining volumes -/

/-- The record of a volume that is retained is left, or written as retained. -/
theorem setPolicy_retains {names : List String} (name : String) (h : Still t)
    (hr : ∀ n ∈ names, t.1.orchestrator.Retained n) :
    Ensures Site.recorded (Guarded space plan) (setPolicy name retained)
      (fun _ u => Still u ∧ ∀ n ∈ names ++ [name], u.1.orchestrator.Retained n) (fun _ u => Still u) t := by
  unfold setPolicy
  refine ensures_bind.mpr (volumeRecord_atSite name (h.guarded rfl) (fun v u y hv same e => ?_)
    fun f u y _ e => h.step rfl e)
  have hu := h.step rfl e
  rw [← same] at hr hv
  simp only
  split
  · rename_i hp
    refine ⟨hu, fun n hn => ?_⟩
    rcases List.mem_append.mp hn with hn | hn
    · exact hr n hn
    · obtain rfl := List.mem_singleton.mp hn
      exact ⟨v, hv, v.policy?_eq.trans hp⟩
  · refine ensures_bind.mpr (ensures_orchestrator.mpr ⟨hu.guarded rfl, fun x w ew => ?_⟩)
    have hw := hu.step rfl ew
    cases x with
    | error f => exact hw
    | ok made =>
      refine ⟨hw, fun n hn => ?_⟩
      rcases List.mem_append.mp hn with hn | hn
      · exact retained_step (hr n hn) ew fun r e => .inr ⟨_, (by cases e; rfl), rfl⟩
      · obtain rfl := List.mem_singleton.mp hn
        obtain ⟨hok, hst⟩ := Site.answer_orchestrator_ok (Site.recorded_eq.mp ew).1
        have written := Site.OrchestratorState.retained_replaceVolume rfl hok
        rw [← hst] at written
        exact hu.named n v hv ▸ written

/-- A volume is retained, and those that were stay so. -/
theorem retain_retains {names : List String} (name : String) (h : Still t)
    (hr : ∀ n ∈ names, t.1.orchestrator.Retained n) :
    Ensures Site.recorded (Guarded space plan) (retain name)
      (fun _ u => Still u ∧ ∀ n ∈ names ++ [name], u.1.orchestrator.Retained n) (fun _ u => Still u) t := by
  unfold retain
  refine ensures_bind.mpr (volumeRecord_atSite name (h.guarded rfl) (fun v u y hv same e => ?_)
    fun f u y _ e => h.step rfl e)
  have hu := h.step rfl e
  rw [← same] at hr hv
  simp only
  split
  · rename_i hp
    refine ⟨hu, fun n hn => ?_⟩
    rcases List.mem_append.mp hn with hn | hn
    · exact hr n hn
    · obtain rfl := List.mem_singleton.mp hn
      refine ⟨v, hv, ?_⟩
      change v.policy?.getD impliedPolicy = retained at hp
      cases hpol : v.policy? with
      | none => rw [hpol] at hp; exact absurd hp (by decide)
      | some policy => rw [hpol] at hp; exact congrArg some hp
  · exact ensures_bind.mpr ((setPolicy_retains name hu hr).post (fun _ _ h => h) fun _ _ h => h)

/-- All volumes of a plan are retained. -/
theorem retainAll_ensures (h : Still t) :
    Ensures Site.recorded (Guarded space plan) (plan.mapM fun r => retain r.volume.name)
      (fun _ u => Held plan u) (fun _ u => Still u) t := by
  refine Ensures.mapM (fun before _ u => Still u ∧ ∀ n ∈ before.map (·.volume.name), u.1.orchestrator.Retained n) plan
    (fun before r after _ u _ hu => ?_) (fun _ u hu => ?_) ⟨h, fun _ hn => nomatch hn⟩
  · rw [List.map_append]
    exact retain_retains r.volume.name hu.1 hu.2
  · exact ⟨fun r hr => hu.2 _ (List.mem_map_of_mem hr), hu.1.named⟩

/-! ## While volumes are retained -/

/-- Claims are deleted while the volumes are retained. -/
theorem deleteClaims_ensures (h : Held plan t) :
    Ensures Site.recorded (Guarded space plan)
      (plan.forM fun r => Service.orchestrator (.deleteClaim space r.claim.name))
      (fun _ u => Held plan u) (fun _ u => Held plan u) t := by
  refine Ensures.forM (fun _ => Held plan) plan (fun _ r _ u _ hu => ?_) (fun _ h => h) h
  refine ensures_orchestrator.mpr ⟨hu.guarded _, fun x w e => ?_⟩
  have hw : Held plan w := hu.step e fun r' hr => .inl (by cases hr; rfl)
  cases x <;> exact hw

/-- A volume is taken from its claim and stays retained. -/
theorem unclaim_ensures {r : Rebinding} (hmem : r ∈ plan) (h : Held plan t) :
    Ensures Site.recorded (Guarded space plan) (unclaim r.volume.name) (fun _ u => Held plan u)
      (fun _ u => Held plan u) t := by
  have look : ∀ {u : Site × History} {y}, Site.recorded t (.orchestrator (.volume r.volume.name)) y u → Held plan u :=
    fun e => h.step e fun r' hr => .inl (by cases hr; rfl)
  unfold unclaim
  refine ensures_bind.mpr (volumeRecord_atSite _ (h.guarded _) (fun v u y hv same e => ?_) fun f u y _ e => look e)
  refine ensures_bind.mpr (ensures_orchestrator.mpr ⟨(look e).guarded _, fun x w ew => ?_⟩)
  -- the record that is written is the one that was read, so it is retained
  obtain ⟨v', hv', hp⟩ := h.retained r hmem
  obtain rfl : v' = v := Option.some.inj (hv'.symm.trans hv)
  have hw : Held plan w := (look e).step ew fun r' hr => .inr ⟨_, (by cases hr; rfl), by
    rw [VolumeRecord.unclaimed_eq (VolumeRecord.isSome_spec_of_policy? hp), VolumeRecord.policy?_withoutClaim]
    exact hp⟩
  cases x <;> exact hw

/-- All volumes are taken from their claims. -/
theorem unclaimAll_ensures (h : Held plan t) :
    Ensures Site.recorded (Guarded space plan) (plan.forM fun r => unclaim r.volume.name) (fun _ u => Held plan u)
      (fun _ u => Held plan u) t :=
  Ensures.forM (fun _ => Held plan) plan (fun _ _ _ _ hplan hu => unclaim_ensures (by simp [hplan]) hu)
    (fun _ h => h) h

/-- The new claims are made. -/
theorem createClaims_ensures (h : Held plan t) :
    Ensures Site.recorded (Guarded space plan)
      (plan.forM fun r => do
        let _ ← Service.orchestrator (.createClaim space (r.claim.rebuilt r.name r.volume)))
      (fun _ u => Held plan u ∧ ∀ r ∈ plan, u.2.Made space r.name) (fun _ u => Held plan u) t := by
  refine Ensures.forM (fun before u => Held plan u ∧ ∀ r ∈ before, u.2.Made space r.name) plan
    (fun before r _ u _ hu => ?_) (fun _ h => h) ⟨h, fun _ hr => nomatch hr⟩
  refine ensures_bind.mpr (ensures_orchestrator.mpr ⟨hu.1.guarded _, fun x w e => ?_⟩)
  have hw : Held plan w := hu.1.step e fun r' hr => .inl (by cases hr; rfl)
  cases x with
  | error f => exact hw
  | ok made =>
    refine ⟨hw, fun r' hr' => ?_⟩
    rw [(Site.recorded_eq.mp e).2]
    rcases List.mem_append.mp hr' with hr' | hr'
    · exact (hu.2 r' hr').later _
    · obtain rfl := List.mem_singleton.mp hr'
      exact ⟨_, made, List.mem_cons_self, rfl⟩

/-- A claim that was made is awaited until it is seen bound. -/
theorem awaitBound_ensures (m : Maintenance) {name : String} (h : Held plan t) (hmade : t.2.Made space name) :
    Ensures Site.recorded (Guarded space plan) (m.awaitBound space name)
      (fun _ u => Held plan u ∧ u.2.SeenBound space name) (fun _ u => Held plan u) t := by
  have begun : ∀ x w, Site.recorded t (.deadline m.timing.draining) x w → Held plan w ∧ w.2.Made space name := by
    refine fun x w e => ⟨h.step e (fun r hr => nomatch hr), ?_⟩
    rw [(Site.recorded_eq.mp e).2]
    exact hmade.later _
  refine Ensures.pollUntil (K := fun u => Held plan u ∧ u.2.Made space name) (fun u hu => ?_) (fun _ hu => hu.1)
    (fun _ hu => hu.1) (h.guarded _) begun
  unfold isBound
  refine ensures_bind.mpr (ensures_orchestrator.mpr ⟨hu.1.guarded _, fun x w e => ?_⟩)
  have hw : Held plan w := hu.1.step e fun r' hr => .inl (by cases hr; rfl)
  have again : Guarded space plan w (.sleep m.timing.pause) ∧ ∀ y v, Site.recorded w (.sleep m.timing.pause) y v →
      Held plan v ∧ v.2.Made space name := by
    refine ⟨hw.guarded _, fun y v ev => ⟨hw.step ev (fun r hr => nomatch hr), ?_⟩⟩
    rw [(Site.recorded_eq.mp ev).2, (Site.recorded_eq.mp e).2]
    exact (hu.2.later _).later _
  cases x with
  | error f => exact hw
  | ok found =>
    cases found with
    | none => exact again
    | some c =>
      simp only [onOutcome]
      split
      · rename_i hb
        refine ⟨hw, ?_⟩
        rw [(Site.recorded_eq.mp e).2]
        exact hu.2.seenBound hb
      · exact again

/-- All new claims are awaited. -/
theorem awaitClaims_ensures (m : Maintenance) (h : Held plan t) (hmade : ∀ r ∈ plan, t.2.Made space r.name) :
    Ensures Site.recorded (Guarded space plan) (plan.forM fun r => m.awaitBound space r.name)
      (fun _ u => ∀ r ∈ plan, u.2.SeenBound space r.name) (fun _ u => Held plan u) t := by
  refine Ensures.forM (fun before u => Held plan u ∧ (∀ r ∈ plan, u.2.Made space r.name) ∧
    ∀ r ∈ before, u.2.SeenBound space r.name) plan (fun before r after u hplan hu => ?_) (fun _ h => h.2.2)
    ⟨h, hmade, fun _ hr => nomatch hr⟩
  obtain ⟨hheld, hmade, hseen⟩ := hu
  have hr : r ∈ plan := by simp [hplan]
  refine (((m.awaitBound_ensures hheld (hmade r hr)).and_invariant (K := fun v => (∀ r ∈ plan, v.2.Made space r.name) ∧
    ∀ r ∈ before, v.2.SeenBound space r.name) ?_ ⟨hmade, hseen⟩).mono (fun _ _ h => h.1) (fun _ v hv => ?_)
    fun _ _ h => h.1)
  · intro v call x w hv _ e
    rw [(Site.recorded_eq.mp e).2]
    exact ⟨fun r hr => (hv.1 r hr).later _, fun r hr => (hv.2 r hr).later _⟩
  · refine ⟨hv.1.1, hv.2.1, fun r' hr' => ?_⟩
    rcases List.mem_append.mp hr' with hr' | hr'
    · exact hv.2.2 r' hr'
    · obtain rfl := List.mem_singleton.mp hr'
      exact hv.1.2

/-! ## When all claims were seen bound -/

/-- Volumes are put back on their policies, and no claim is deleted. -/
theorem setPolicies_ensures (policies : List String) (hseen : ∀ r ∈ plan, t.2.SeenBound space r.name) :
    Ensures Site.recorded (Guarded space plan)
      ((plan.zip policies).forM fun (r, policy) => setPolicy r.volume.name policy)
      (fun _ u => Safe space plan u) (fun _ u => Safe space plan u) t := by
  have only : Ensures anyAnswers (fun _ call => call.deletesClaim = false)
      ((plan.zip policies).forM fun (r, policy) => setPolicy r.volume.name policy) (fun _ _ => True) (fun _ _ => True)
      t.2 := by
    refine Ensures.forM (fun _ _ => True) _ (fun _ a _ _ _ _ => ?_) (fun _ _ => trivial) trivial
    unfold setPolicy volumeRecord
    refine ensures_bind.mpr (ensures_bind.mpr (ask_orchestrator rfl (fun found => ?_) fun _ => trivial))
    refine ensures_require.mpr ⟨fun v _ => ?_, fun _ => trivial⟩
    simp only
    split
    · exact trivial
    · exact ensures_bind.mpr (ask_orchestrator rfl (fun _ => trivial) fun _ => trivial)
  refine ((only.remembered Site.remembers_recorded).and_invariant
    (K := fun u => ∀ r ∈ plan, u.2.SeenBound space r.name) ?_ hseen).mono (fun u call h => ?_)
    (fun _ _ h => .inr (.inr h.2)) fun _ _ h => .inr (.inr h.2)
  · intro u call x w hu _ e
    rw [(Site.recorded_eq.mp e).2]
    exact fun r hr => (hu r hr).later _
  · exact ⟨fun hd => absurd hd (by simp [h.1]), .inr (.inr h.2)⟩

/-- Rebuilding claims is safe for the volumes of a plan. -/
theorem rebind_ensures (m : Maintenance) (h : Still t) :
    Ensures Site.recorded (Guarded space plan) (m.rebind space plan) (fun _ u => Safe space plan u)
      (fun _ u => Safe space plan u) t := by
  have safe : ∀ (_ : Failure) (u : Site × History), Held plan u → Safe space plan u := fun _ _ hu => hu.safe
  unfold rebind
  refine ensures_bind.mpr ((retainAll_ensures h).post (fun policies u hu => ?_) fun _ _ hu => .inl hu.undeleted)
  refine ensures_bind.mpr ((deleteClaims_ensures hu).post (fun _ u hu => ?_) safe)
  refine ensures_bind.mpr ((unclaimAll_ensures hu).post (fun _ u hu => ?_) safe)
  refine ensures_bind.mpr ((createClaims_ensures hu).post (fun _ u hu => ?_) safe)
  refine ensures_bind.mpr ((m.awaitClaims_ensures hu.1 hu.2).post (fun _ u hu => ?_) safe)
  exact setPolicies_ensures policies hu

end

/-! ## Renaming and swapping -/

/-- The volumes for which some claims asked at the beginning are there and retained. -/
def Retains (s : Site) (space : String) (given : List String) (t : Site) : Prop :=
  ∀ c ∈ given, ∃ v, s.orchestrator.wanted (space, c) = some v ∧ t.orchestrator.Retained v

/-- No claim was deleted, or the volumes of the given claims are retained, or the new claims were seen bound. -/
def ReclaimSafe (s : Site) (space : String) (given made : List String) (t : Site × History) : Prop :=
  t.2.Without Call.deletesClaim ∨ Retains s space given t.1 ∨ ∀ n ∈ made, t.2.SeenBound space n

/-- Whatever becomes of its calls, a service that gives up claims for new ones is safe for their volumes: at every call
and at the end, and a claim is deleted only while the volumes are retained. -/
def RunsSafely (s : Site) (space : String) (given made : List String) (service : Service Unit) : Prop :=
  service.run.Always (Program.recording (I := collaborators) Site.answer) (fun t call =>
      (call.deletesClaim = true → Retains s space given t.1) ∧ ReclaimSafe s space given made t) (s, []) ∧
    ReclaimSafe s space given made (service.run.run (Program.recording (I := collaborators) Site.answer) (s, [])).2

/-- What preparing calls keep: no claim was deleted, claims ask for what they did, and what was told is so. -/
structure Prepared (s : Site) (t : Site × History) : Prop where
  undeleted : t.2.Without Call.deletesClaim
  named : t.1.orchestrator.Named
  wanted : t.1.orchestrator.wanted = s.orchestrator.wanted
  claims : ∀ key c, Exchange.orchestrator (.claim key.1 key.2) (.ok (some c)) ∈ t.2 →
    c.volumeName? = s.orchestrator.wanted key
  volumes : ∀ name v, Exchange.orchestrator (.volume name) (.ok (some v)) ∈ t.2 → v.name = name

section

variable {s : Site} {space : String} {given made : List String} {t u : Site × History} {call : Call} {x : call.Answer}

theorem Call.writes_of_isPreparing {r : Request} (h : (Call.orchestrator r).isPreparing = true) :
    r.writesVolume = false ∧ r.writesClaim = false := by
  cases r <;> first | exact ⟨rfl, rfl⟩ | cases h

theorem Prepared.step (h : Prepared s t) (hc : call.isPreparing = true) (e : Site.recorded t call x u) :
    Prepared s u := by
  obtain ⟨hx, hu⟩ := Site.recorded_eq.mp e
  refine ⟨?_, named_step h.named e, ?_, fun key c hmem => ?_, fun name v hmem => ?_⟩
  · exact hu ▸ History.without_cons (Call.deletesClaim_of_isPreparing hc) h.undeleted
  · refine Site.answer_keeps_orchestrator (K := fun o => o.wanted = s.orchestrator.wanted) hx h.wanted ?_
    rintro r rfl
    exact (Site.OrchestratorState.wanted_answer (Call.writes_of_isPreparing hc).2 _).trans h.wanted
  · rw [hu] at hmem
    rcases List.mem_cons.mp hmem with e | hmem
    · cases e
      have told := Except.ok.inj (Site.answer_orchestrator_ok hx).1
      rw [← h.wanted]
      exact Site.OrchestratorState.volumeName?_lookAtClaim told
    · exact h.claims key c hmem
  · rw [hu] at hmem
    rcases List.mem_cons.mp hmem with e | hmem
    · cases e
      exact h.named name v (Except.ok.inj (Site.answer_orchestrator_ok hx).1)
    · exact h.volumes name v hmem

/-- A claim is deleted only while the volumes are retained, and nothing is called unless it is safe. -/
def Keeping (s : Site) (space : String) (given made : List String) (t : Site × History) (call : Call) : Prop :=
  (call.deletesClaim = true → Retains s space given t.1) ∧ ReclaimSafe s space given made t

theorem undisturbed_prepared : Undisturbed Site.recorded (Keeping s space given made) (Prepared s) where
  may := fun _ _ hc h =>
    ⟨fun hd => absurd hd (by simp [Call.deletesClaim_of_isPreparing hc]), .inl h.undeleted⟩
  keeps := fun _ _ _ _ hc h e => h.step hc e

theorem undisturbed_safe : Undisturbed Site.recorded (Keeping s space given made) (ReclaimSafe s space given made) where
  may := fun _ _ hc h => ⟨fun hd => absurd hd (by simp [Call.deletesClaim_of_isPreparing hc]), h⟩
  keeps := by
    intro t call x u hc h e
    have hu := (Site.recorded_eq.mp e).2
    rcases h with h | h | h
    · exact .inl (hu ▸ History.without_cons (Call.deletesClaim_of_isPreparing hc) h)
    · refine .inr (.inl fun c hmem => ?_)
      obtain ⟨v, hv, hr⟩ := h c hmem
      exact ⟨v, hv, retained_step hr e fun r hr => .inl (Call.writes_of_isPreparing (hr ▸ hc)).1⟩
    · exact .inr (.inr fun n hn => hu ▸ (h n hn).later _)

/-- A bound claim is found with the volume for which the claim asked at the beginning. -/
theorem boundClaim_prepared (m : Maintenance) (name : String) {P : Site × History → Call → Prop}
    {K : Site × History → Prop} (hK : Undisturbed Site.recorded P K) (prepared : ∀ t, K t → Prepared s t) (h : K t)
    (hok : t.2.AllSucceeded) :
    Ensures Site.recorded P (m.boundClaim space name)
      (fun bound u => u.2.AllSucceeded ∧ K u ∧ s.orchestrator.wanted (space, name) = some bound.volume.name)
      (fun _ u => K u) t := by
  refine (hK.ensures Site.remembers_recorded (m.boundClaim_ensures space name hok) h).post ?_ fun _ _ h => h.2
  rintro bound u ⟨⟨hok, volumeName, told, hu⟩, hk⟩
  have hp := prepared u hk
  refine ⟨hok, hk, ?_⟩
  have hclaim := hp.claims (space, name) bound.claim (by rw [hu]; simp)
  have hvolume := hp.volumes volumeName bound.volume (by rw [hu]; simp)
  rw [← hclaim, told.named, hvolume]

/-- Rebuilding claims is safe for the volumes of the claims that are given up, if the plan has them all. -/
theorem rebind_safe (m : Maintenance) {plan : List Rebinding}
    (hgiven : ∀ c ∈ given, ∃ r ∈ plan, s.orchestrator.wanted (space, c) = some r.volume.name)
    (hmade : ∀ n ∈ made, ∃ r ∈ plan, r.name = n) (h : Prepared s t) :
    Ensures Site.recorded (Keeping s space given made) (m.rebind space plan)
      (fun _ u => ReclaimSafe s space given made u) (fun _ u => ReclaimSafe s space given made u) t := by
  have retains : ∀ u, AllRetained plan u → Retains s space given u := by
    intro u hu c hc
    obtain ⟨r, hr, hw⟩ := hgiven c hc
    exact ⟨r.volume.name, hw, hu r hr⟩
  have safe : ∀ u, Safe space plan u → ReclaimSafe s space given made u := by
    intro u hu
    refine hu.imp_right fun hu => hu.imp (retains u.1) fun hu n hn => ?_
    obtain ⟨r, hr, rfl⟩ := hmade n hn
    exact hu r hr
  exact (m.rebind_ensures ⟨h.undeleted, h.named⟩).mono (fun u _ h => ⟨fun hd => retains u.1 (h.1 hd), safe u h.2⟩)
    (fun _ u hu => safe u hu) fun _ u hu => safe u hu

/-- The same with the claims drained. -/
theorem whileDrained_rebind_safe (m : Maintenance) (force : Bool) {plan : List Rebinding}
    (hgiven : ∀ c ∈ given, ∃ r ∈ plan, s.orchestrator.wanted (space, c) = some r.volume.name)
    (hmade : ∀ n ∈ made, ∃ r ∈ plan, r.name = n) (h : Prepared s t) (hok : t.2.AllSucceeded) :
    Ensures Site.recorded (Keeping s space given made) (m.whileDrained space given force (m.rebind space plan))
      (fun _ u => ReclaimSafe s space given made u) (fun _ u => ReclaimSafe s space given made u) t := by
  refine m.whileDrained_ensures Site.remembers_recorded space given force undisturbed_prepared (fun o => ?_)
    (fun _ _ h => .inl h.undeleted) (fun u _ hu => m.rebind_safe hgiven hmade hu) hok h
  cases o <;> exact undisturbed_safe

/-- Every site that keeps volumes under their names is prepared. -/
theorem prepared_start (hs : s.orchestrator.Named) : Prepared s (s, []) :=
  ⟨History.without_nil, hs, rfl, fun _ _ h => (nomatch h), fun _ _ h => (nomatch h)⟩

/-- What is ensured of a service with its history is how it runs. -/
theorem runsSafely_of_ensures {service : Service Unit}
    (h : Ensures Site.recorded (Keeping s space given made) service (fun _ u => ReclaimSafe s space given made u)
      (fun _ u => ReclaimSafe s space given made u) (s, [])) : RunsSafely s space given made service := by
  obtain ⟨always, ended⟩ := Program.ensures_ofHandler.mp h
  refine ⟨always, ?_⟩
  cases hrun : (service.run.run (Program.recording (I := collaborators) Site.answer) (s, [])).1 <;>
    rw [hrun] at ended <;> exact ended

/-- Renaming a claim is safe for its volume. -/
theorem rename_runs_safely (m : Maintenance) (old new : String) (force : Bool) (hs : s.orchestrator.Named) :
    RunsSafely s space [old] [new] (m.rename space old new force) := by
  have start := prepared_start hs
  refine runsSafely_of_ensures ?_
  unfold rename
  split
  · exact .inl History.without_nil
  refine ensures_bind.mpr (ensures_orchestrator.mpr ⟨undisturbed_prepared.may _ _ rfl start, fun x t e => ?_⟩)
  have prepared := start.step rfl e
  cases x with
  | error f => exact .inl prepared.undeleted
  | ok found =>
    simp only [onOutcome]
    split
    · exact .inl prepared.undeleted
    have hok : t.2.AllSucceeded :=
      (Site.recorded_eq.mp e).2 ▸ History.allSucceeded_cons rfl History.allSucceeded_nil
    refine ensures_bind.mpr ((m.boundClaim_prepared old undisturbed_prepared (fun _ h => h) prepared hok).post
      (fun bound u hu => ?_) fun _ _ h => .inl h.undeleted)
    refine m.whileDrained_rebind_safe force (fun c hc => ?_) (fun n hn => ?_) hu.2.1 hu.1
    · obtain rfl := List.mem_singleton.mp hc
      exact ⟨_, List.mem_singleton_self _, hu.2.2⟩
    · obtain rfl := List.mem_singleton.mp hn
      exact ⟨_, List.mem_singleton_self _, rfl⟩

/-- Swapping two claims is safe for their volumes. -/
theorem swap_runs_safely (m : Maintenance) (first second : String) (force : Bool) (hs : s.orchestrator.Named) :
    RunsSafely s space [first, second] [first, second] (m.swap space first second force) := by
  refine runsSafely_of_ensures ?_
  unfold swap
  split
  · exact .inl History.without_nil
  refine ensures_bind.mpr ((m.boundClaim_prepared first undisturbed_prepared (fun _ h => h) (prepared_start hs)
    History.allSucceeded_nil).post (fun a t ha => ?_) fun _ _ h => .inl h.undeleted)
  refine ensures_bind.mpr ((m.boundClaim_prepared second undisturbed_prepared (fun _ h => h) ha.2.1 ha.1).post
    (fun b u hb => ?_) fun _ _ h => .inl h.undeleted)
  split
  · exact .inl hb.2.1.undeleted
  refine m.whileDrained_rebind_safe force (fun c hc => ?_) (fun n hn => ?_) hb.2.1 hb.1
  · simp only [List.mem_cons, List.not_mem_nil, or_false] at hc
    rcases hc with rfl | rfl
    · exact ⟨⟨b.claim, second, a.volume⟩, by simp, ha.2.2⟩
    · exact ⟨⟨a.claim, first, b.volume⟩, by simp, hb.2.2⟩
  · simp only [List.mem_cons, List.not_mem_nil, or_false] at hn
    rcases hn with rfl | rfl
    · exact ⟨⟨a.claim, n, b.volume⟩, by simp, rfl⟩
    · exact ⟨⟨b.claim, n, a.volume⟩, by simp, rfl⟩

end

/-- **Volumes outlive the claims that are rebuilt.** When claims are renamed or swapped at a site that keeps volumes
under their names, then whatever becomes of the calls a claim is deleted only while the volumes of the plan are
retained, and once one was deleted they are retained until all new claims were seen bound. -/
theorem rebuilding_runs_safely (m : Maintenance) (space : String) (s : Site) (hs : s.orchestrator.Named) :
    (∀ old new force, RunsSafely s space [old] [new] (m.rename space old new force)) ∧
      ∀ first second force,
        RunsSafely s space [first, second] [first, second] (m.swap space first second force) := by
  refine ⟨fun old new force => ?_, fun first second force => ?_⟩
  · exact m.rename_runs_safely old new force hs
  · exact m.swap_runs_safely first second force hs

set_option maxRecDepth 4000 in
/-- A claim is renamed, its old name deleted, with its volume retained. -/
theorem rebuilding_runs_safely_two_nodes :
    (TwoNodes.site false).orchestrator.Named ∧
      ((Site.run (TwoNodes.driver.rename "default" "data" "other" false) (TwoNodes.site false)).2.log.any
        Call.deletesClaim) = true ∧
      RunsSafely (TwoNodes.site false) "default" ["data"] ["other"]
        (TwoNodes.driver.rename "default" "data" "other" false) :=
  ⟨TwoNodes.named false, by decide +kernel,
    (rebuilding_runs_safely TwoNodes.driver "default" (TwoNodes.site false) (TwoNodes.named false)).1 "data" "other"
      false⟩

end Maintenance

end ClusterVolumes
