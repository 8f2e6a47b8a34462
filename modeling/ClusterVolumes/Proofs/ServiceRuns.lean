import ClusterVolumes.Proofs.Runs

/-!
# What holds along every run of a service

`Service.Ensures` is `Program.Ensures` with one condition for the end of a service that gives a value (`good`) and one
for the end of a service that fails (`bad`). Each way of building a service has its rule: the calls, sequences, the
combinators of failure, polling (`Ensures.poll`, `Ensures.pollUntil`) and lists of services (`Ensures.forM`,
`Ensures.mapM`), which go by what holds after a part of the list. Where the items of a list do not get into each
other's way, it is enough to say what is done for one of them (`Ensures.forM_taken`, `Ensures.mapM_taken`).

`Service.RunsTo` is a single run of a service, and `runsTo_bind` says how a run of a sequence comes to its outcome.
-/

namespace ClusterVolumes

/-- The exchanges with the collaborators so far, the latest first. -/
abbrev History : Type := List (Program.Exchange collaborators)

/-- A condition for a value and one for a failure, as one for outcomes. -/
def onOutcome {α σ : Type} (good : α → σ → Prop) (bad : Failure → σ → Prop) : Except Failure α → σ → Prop
  | .ok a, s => good a s
  | .error f, s => bad f s

theorem eq_ok_of_toOption {ε α : Type} {outcome : Except ε α} {a : α} (h : outcome.toOption = some a) :
    outcome = .ok a := by
  cases outcome with
  | error e => cases h
  | ok b => exact congrArg Except.ok (Option.some.inj h)

namespace Service

variable {σ α β : Type} {E : Environment collaborators σ} {P P' : σ → Call → Prop}
  {good : α → σ → Prop} {bad : Failure → σ → Prop} {s : σ}

/-- Along every run, `P` holds whenever a call is made, and at the end `good` of the value or `bad` of the failure. -/
def Ensures (E : Environment collaborators σ) (P : σ → Call → Prop) (service : Service α) (good : α → σ → Prop)
    (bad : Failure → σ → Prop) (s : σ) : Prop :=
  service.run.Ensures E P (onOutcome good bad) s

/-! ## Sequences -/

@[simp] theorem ensures_pure {a : α} : Ensures E P (pure a) good bad s ↔ good a s := Iff.rfl

@[simp] theorem ensures_throw {f : Failure} : Ensures E P (throw f : Service α) good bad s ↔ bad f s := Iff.rfl

@[simp] theorem ensures_bind {service : Service α} {next : α → Service β} {good : β → σ → Prop} :
    Ensures E P (service >>= next) good bad s ↔
      Ensures E P service (fun a t => Ensures E P (next a) good bad t) bad s := by
  unfold Ensures
  rw [ExceptT.run_bind]
  refine Program.ensures_bind.trans ⟨fun h => Program.Ensures.post h ?_, fun h => Program.Ensures.post h ?_⟩
  all_goals rintro (f | a) t h <;> exact h

theorem Ensures.mono {service : Service α} {good' : α → σ → Prop} {bad' : Failure → σ → Prop}
    (h : Ensures E P service good bad s) (hP : ∀ s r, P s r → P' s r) (hg : ∀ a s, good a s → good' a s)
    (hb : ∀ f s, bad f s → bad' f s) : Ensures E P' service good' bad' s := by
  refine Program.Ensures.mono h hP ?_
  rintro (f | a) t h
  · exact hb f t h
  · exact hg a t h

/-- Nothing is asked of a run, and nothing is known of its end. -/
theorem ensures_trivial {service : Service α} :
    Ensures E (fun _ _ => True) service (fun _ _ => True) (fun _ _ => True) s := by
  refine Program.Ensures.post Program.ensures_trivial ?_
  rintro (f | a) t h <;> exact h

/-- The same run, with less known of its end. -/
theorem Ensures.post {service : Service α} {good' : α → σ → Prop} {bad' : Failure → σ → Prop}
    (h : Ensures E P service good bad s) (hg : ∀ a s, good a s → good' a s) (hb : ∀ f s, bad f s → bad' f s) :
    Ensures E P service good' bad' s :=
  h.mono (fun _ _ h => h) hg hb

theorem Ensures.and {service : Service α} {good' : α → σ → Prop} {bad' : Failure → σ → Prop}
    (h : Ensures E P service good bad s) (h' : Ensures E P' service good' bad' s) :
    Ensures E (fun s r => P s r ∧ P' s r) service (fun a s => good a s ∧ good' a s) (fun f s => bad f s ∧ bad' f s)
      s := by
  refine (Program.Ensures.and h h').post ?_
  rintro (f | a) t h <;> exact h

/-- What every answer keeps holds at every call and at the end. -/
theorem Ensures.and_invariant {service : Service α} {K : σ → Prop} (h : Ensures E P service good bad s)
    (hK : ∀ s r x t, K s → P s r → E s r x t → K t) (hs : K s) :
    Ensures E (fun s r => P s r ∧ K s) service (fun a s => good a s ∧ K s) (fun f s => bad f s ∧ K s) s := by
  refine (Program.Ensures.and_invariant h hK hs).post ?_
  rintro (f | a) t h <;> exact h

/-- What is ensured whatever the answers are, holds of the exchanges that an environment remembers. -/
theorem Ensures.remembered {past : σ → History} (hE : Program.Remembers E past) {P : History → Call → Prop}
    {service : Service α} {good : α → History → Prop} {bad : Failure → History → Prop}
    (h : Ensures Program.anyAnswers P service good bad (past s)) :
    Ensures E (fun s r => P (past s) r) service (fun a s => good a (past s)) (fun f s => bad f (past s)) s := by
  refine (Program.Ensures.remembered hE h).post ?_
  rintro (f | a) t h <;> exact h

/-! ## Single runs -/

/-- One run of a service: it begins in a state and comes to an outcome and another state. -/
def RunsTo (E : Environment collaborators σ) (service : Service α) (s : σ) (outcome : Except Failure α) (t : σ) :
    Prop :=
  service.run.RunsTo E s outcome t

section SingleRuns

variable {t : σ}

theorem runsTo_pure {a : α} {outcome : Except Failure α} :
    RunsTo E (pure a) s outcome t ↔ outcome = .ok a ∧ t = s :=
  Program.runsTo_done

theorem runsTo_ofExcept {e outcome : Except Failure α} : RunsTo E (ofExcept e) s outcome t ↔ outcome = e ∧ t = s :=
  Program.runsTo_done

theorem runsTo_throw {f : Failure} {outcome : Except Failure α} :
    RunsTo E (throw f) s outcome t ↔ outcome = .error f ∧ t = s :=
  Program.runsTo_done

theorem runsTo_cluster {region : String} {r : Hypervisor.Request} {outcome : Except Failure r.Answer} :
    RunsTo E (cluster region r) s outcome t ↔ E s (.cluster region r) outcome t :=
  Program.runsTo_request

theorem runsTo_orchestrator {r : Orchestrator.Request} {outcome : Except Failure r.Answer} :
    RunsTo E (orchestrator r) s outcome t ↔ E s (.orchestrator r) outcome t :=
  Program.runsTo_request

theorem runsTo_mounts {r : Mount.Request} {outcome : Except Failure r.Answer} :
    RunsTo E (mounts r) s outcome t ↔ E s (.mounts r) outcome t :=
  Program.runsTo_request

/-- A run of a sequence goes on with the value of its first part, or ends with its failure. -/
theorem runsTo_bind {service : Service α} {next : α → Service β} {outcome : Except Failure β} :
    RunsTo E (service >>= next) s outcome t ↔
      (∃ a u, RunsTo E service s (.ok a) u ∧ RunsTo E (next a) u outcome t) ∨
        ∃ f, outcome = .error f ∧ RunsTo E service s (.error f) t :=
  Program.runsTo_exceptBind

theorem runsTo_require {o : Option α} {f : Failure} {outcome : Except Failure α} :
    RunsTo E (require o f) s outcome t ↔ outcome = o.elim (.error f) .ok ∧ t = s := by
  cases o
  · exact runsTo_throw
  · exact runsTo_pure

/-- A sequence that begins with a value which must be there. -/
theorem runsTo_required {o : Option α} {f : Failure} {next : α → Service β} {outcome : Except Failure β} :
    RunsTo E (require o f >>= next) s outcome t ↔
      (∃ a, o = some a ∧ RunsTo E (next a) s outcome t) ∨ o = none ∧ outcome = .error f ∧ t = s := by
  simp only [runsTo_bind, runsTo_require]
  cases o with
  | none =>
    constructor
    · rintro (⟨a, u, ⟨e, -⟩, -⟩ | ⟨g, rfl, e, rfl⟩)
      · cases e
      · cases e
        exact .inr ⟨rfl, rfl, rfl⟩
    · rintro (⟨a, e, -⟩ | ⟨-, rfl, rfl⟩)
      · cases e
      · exact .inr ⟨f, rfl, rfl, rfl⟩
  | some a =>
    constructor
    · rintro (⟨b, u, ⟨e, rfl⟩, rest⟩ | ⟨g, -, e, -⟩)
      · cases e
        exact .inl ⟨a, rfl, rest⟩
      · cases e
    · rintro (⟨b, e, rest⟩ | ⟨e, -⟩)
      · cases e
        exact .inl ⟨a, s, ⟨rfl, rfl⟩, rest⟩
      · cases e

/-- A program that does not fail, as a service. -/
theorem runsTo_lift {p : Program collaborators α} {outcome : Except Failure α} :
    RunsTo E (ExceptT.lift p) s outcome t ↔ ∃ a, outcome = .ok a ∧ p.RunsTo E s a t := by
  refine Program.runsTo_bind.trans ?_
  constructor
  · rintro ⟨a, u, run, done⟩
    obtain ⟨rfl, rfl⟩ := Program.runsTo_done.mp done
    exact ⟨a, rfl, run⟩
  · rintro ⟨a, rfl, run⟩
    exact ⟨a, t, run, .done _ _⟩

/-- An attempt succeeds, with the outcome of what is attempted. -/
theorem runsTo_attempt {service : Service α} {outcome : Except Failure (Except Failure α)} :
    RunsTo E service.attempt s outcome t ↔ ∃ o, outcome = .ok o ∧ RunsTo E service s o t :=
  runsTo_lift

/-- What is told in other words ends as it does, but for the words. -/
theorem runsTo_rewording {service : Service α} {words : Failure → Failure} {outcome : Except Failure α} :
    RunsTo E (service.rewording words) s outcome t ↔
      ∃ o, outcome = o.mapError words ∧ RunsTo E service s o t := by
  refine Program.runsTo_bind.trans ?_
  constructor
  · rintro ⟨o, u, run, done⟩
    obtain ⟨rfl, rfl⟩ := Program.runsTo_done.mp done
    exact ⟨o, rfl, run⟩
  · rintro ⟨o, rfl, run⟩
    exact ⟨o, t, run, .done _ _⟩

theorem runsTo_files {outcome : Except Failure FileTree} :
    RunsTo E files s outcome t ↔ ∃ x, outcome = .ok x ∧ E s .files x t :=
  runsTo_lift.trans (exists_congr fun _ => and_congr_right fun _ => Program.runsTo_request)

theorem runsTo_makeFolders {path : String} {outcome : Except Failure (Except SystemFailure Unit)} :
    RunsTo E (makeFolders path) s outcome t ↔ ∃ x, outcome = .ok x ∧ E s (.makeFolders path) x t :=
  runsTo_lift.trans (exists_congr fun _ => and_congr_right fun _ => Program.runsTo_request)

theorem runsTo_writeFile {path text : String} {outcome : Except Failure (Except SystemFailure Unit)} :
    RunsTo E (writeFile path text) s outcome t ↔ ∃ x, outcome = .ok x ∧ E s (.writeFile path text) x t :=
  runsTo_lift.trans (exists_congr fun _ => and_congr_right fun _ => Program.runsTo_request)

theorem runsTo_sleep {ms : Nat} {outcome : Except Failure Unit} :
    RunsTo E (sleep ms) s outcome t ↔ ∃ x, outcome = .ok x ∧ E s (.sleep ms) x t :=
  runsTo_lift.trans (exists_congr fun _ => and_congr_right fun _ => Program.runsTo_request)

/-- Before a wait begins, the clock says whether it can show the end of it. -/
theorem runsTo_deadline {timeout : Nat} {outcome : Except Failure Unit} :
    RunsTo E (deadline timeout) s outcome t ↔
      (outcome = .ok () ∧ E s (.deadline timeout) true t) ∨
        outcome = .error .clockOverflow ∧ E s (.deadline timeout) false t := by
  have asked {o : Except Failure Bool} {u : σ} :
      RunsTo E (ExceptT.lift (Program.request (I := collaborators) (.deadline timeout))) s o u ↔
        ∃ shown : Bool, o = .ok shown ∧ E s (.deadline timeout) shown u :=
    runsTo_lift.trans (exists_congr fun _ => and_congr_right fun _ => Program.runsTo_request)
  unfold deadline
  rw [runsTo_bind]
  constructor
  · rintro (⟨shown, u, first, rest⟩ | ⟨f, -, first⟩)
    · obtain ⟨_, same, answered⟩ := asked.mp first
      obtain rfl := Except.ok.inj same
      cases shown with
      | true =>
        obtain ⟨rfl, rfl⟩ := runsTo_pure.mp rest
        exact .inl ⟨rfl, answered⟩
      | false =>
        obtain ⟨rfl, rfl⟩ := runsTo_throw.mp rest
        exact .inr ⟨rfl, answered⟩
    · obtain ⟨_, same, -⟩ := asked.mp first
      cases same
  · rintro (⟨rfl, answered⟩ | ⟨rfl, answered⟩)
    · exact .inl ⟨true, t, asked.mpr ⟨true, rfl, answered⟩, runsTo_pure.mpr ⟨rfl, rfl⟩⟩
    · exact .inl ⟨false, t, asked.mpr ⟨false, rfl, answered⟩, runsTo_throw.mpr ⟨rfl, rfl⟩⟩

theorem runsTo_acquire {key : String} {outcome : Except Failure Unit} :
    RunsTo E (acquire key) s outcome t ↔ ∃ x, outcome = .ok x ∧ E s (.acquire key) x t :=
  runsTo_lift.trans (exists_congr fun _ => and_congr_right fun _ => Program.runsTo_request)

theorem runsTo_release {key : String} {outcome : Except Failure Unit} :
    RunsTo E (release key) s outcome t ↔ ∃ x, outcome = .ok x ∧ E s (.release key) x t :=
  runsTo_lift.trans (exists_congr fun _ => and_congr_right fun _ => Program.runsTo_request)

/-- What runs under a lock runs between the two calls for the lock. -/
theorem runsTo_holding {key : String} {service : Service α} {outcome : Except Failure α} :
    RunsTo E (Service.holding key service) s outcome t ↔
      ∃ x u v y, E s (.acquire key) x u ∧ RunsTo E service u outcome v ∧ E v (.release key) y t := by
  unfold Service.holding
  simp only [runsTo_bind, runsTo_acquire, runsTo_release, runsTo_attempt, runsTo_ofExcept]
  constructor
  · rintro (⟨_, u, ⟨x, _, acquired⟩, ⟨_, v, ⟨o, e, run⟩, rest⟩ | ⟨_, _, _, e, _⟩⟩ | ⟨_, _, _, e, _⟩)
    · obtain rfl := Except.ok.inj e
      rcases rest with ⟨_, w, ⟨y, _, released⟩, rfl, rfl⟩ | ⟨_, _, _, e, _⟩
      · exact ⟨x, u, v, y, acquired, run, released⟩
      · cases e
    · cases e
    · cases e
  · rintro ⟨x, u, v, y, acquired, run, released⟩
    refine .inl ⟨x, u, ⟨x, trivial, acquired⟩, .inl ⟨outcome, v, ⟨outcome, rfl, run⟩, .inl ?_⟩⟩
    exact ⟨y, t, ⟨y, trivial, released⟩, rfl, rfl⟩

/-- What is ensured of a value holds at the end of every run that gives one. -/
theorem Ensures.runsTo_ok {service : Service α} {a : α} (h : Ensures E P service good bad s)
    (run : RunsTo E service s (.ok a) t) : good a t := by
  unfold Ensures at h
  exact h.runsTo run

/-- What is ensured of a failure holds at the end of every run that fails. -/
theorem Ensures.runsTo_error {service : Service α} {f : Failure} (h : Ensures E P service good bad s)
    (run : RunsTo E service s (.error f) t) : bad f t := by
  unfold Ensures at h
  exact h.runsTo run

end SingleRuns

/-! ## Calls -/

theorem ensures_cluster {region : String} {r : Hypervisor.Request} {good : r.Answer → σ → Prop} :
    Ensures E P (cluster region r) good bad s ↔
      P s (.cluster region r) ∧ ∀ x t, E s (.cluster region r) x t → onOutcome good bad x t := Iff.rfl

theorem ensures_orchestrator {r : Orchestrator.Request} {good : r.Answer → σ → Prop} :
    Ensures E P (orchestrator r) good bad s ↔
      P s (.orchestrator r) ∧ ∀ x t, E s (.orchestrator r) x t → onOutcome good bad x t := Iff.rfl

theorem ensures_mounts {r : Mount.Request} {good : r.Answer → σ → Prop} :
    Ensures E P (mounts r) good bad s ↔
      P s (.mounts r) ∧ ∀ x t, E s (.mounts r) x t → onOutcome good bad x t := Iff.rfl

theorem ensures_files {good : FileTree → σ → Prop} :
    Ensures E P files good bad s ↔ P s .files ∧ ∀ x t, E s .files x t → good x t := Iff.rfl

theorem ensures_sleep {ms : Nat} {good : Unit → σ → Prop} :
    Ensures E P (sleep ms) good bad s ↔ P s (.sleep ms) ∧ ∀ x t, E s (.sleep ms) x t → good x t := Iff.rfl

theorem ensures_acquire {key : String} {good : Unit → σ → Prop} :
    Ensures E P (acquire key) good bad s ↔ P s (.acquire key) ∧ ∀ x t, E s (.acquire key) x t → good x t := Iff.rfl

theorem ensures_release {key : String} {good : Unit → σ → Prop} :
    Ensures E P (release key) good bad s ↔ P s (.release key) ∧ ∀ x t, E s (.release key) x t → good x t := Iff.rfl

/-! ## Failure -/

@[simp] theorem ensures_attempt {service : Service α} {good : Except Failure α → σ → Prop} :
    Ensures E P service.attempt good bad s ↔
      Ensures E P service (fun a => good (.ok a)) (fun f => good (.error f)) s := by
  refine Program.ensures_bind.trans ⟨fun h => Program.Ensures.post h ?_, fun h => Program.Ensures.post h ?_⟩
  all_goals rintro (f | a) t h <;> exact h

@[simp] theorem ensures_rewording {service : Service α} {words : Failure → Failure} :
    Ensures E P (service.rewording words) good bad s ↔ Ensures E P service good (fun f => bad (words f)) s := by
  refine Program.ensures_bind.trans ⟨fun h => Program.Ensures.post h ?_, fun h => Program.Ensures.post h ?_⟩
  all_goals rintro (f | a) t h <;> exact h

theorem ensures_require {o : Option α} {f : Failure} :
    Ensures E P (require o f) good bad s ↔ (∀ a, o = some a → good a s) ∧ (o = none → bad f s) := by
  cases o <;> simp [require]

/-- What is refused under a condition fails there, and goes on where the condition does not hold. -/
theorem ensures_unless {c : Prop} [Decidable c] {f : Failure} {next : PUnit → Service α} (refused : c → bad f s)
    (go : ¬c → Ensures E P (next ⟨⟩) good bad s) :
    Ensures E P (if c then throw f >>= next else next ⟨⟩) good bad s := by
  split
  · rename_i h
    exact refused h
  · rename_i h
    exact go h

theorem ensures_ofExcept {e : Except Failure α} :
    Ensures E P (ofExcept e) good bad s ↔ onOutcome good bad e s := Iff.rfl

/-- A lock is held while a service runs, and given back in either case. -/
theorem Ensures.holding {key : String} {service : Service α} (hP : P s (.acquire key))
    (run : ∀ x t, E s (.acquire key) x t → Ensures E P service
      (fun a u => P u (.release key) ∧ ∀ y v, E u (.release key) y v → good a v)
      (fun f u => P u (.release key) ∧ ∀ y v, E u (.release key) y v → bad f v) t) :
    Ensures E P (Service.holding key service) good bad s := by
  unfold Service.holding
  refine ensures_bind.mpr (ensures_acquire.mpr ⟨hP, fun x t ht => ?_⟩)
  refine ensures_bind.mpr (ensures_attempt.mpr ((run x t ht).post (fun a u hu => ?_) fun f u hu => ?_))
  · exact ensures_bind.mpr (ensures_release.mpr ⟨hu.1, fun y v hv => ensures_ofExcept.mpr (hu.2 y v hv)⟩)
  · exact ensures_bind.mpr (ensures_release.mpr ⟨hu.1, fun y v hv => ensures_ofExcept.mpr (hu.2 y v hv)⟩)

/-! ## Polling -/

/-- Before a wait begins, the clock says whether it can show the end of it. -/
theorem Ensures.deadline {timeout : Nat} {good : Unit → σ → Prop} (hP : P s (.deadline timeout))
    (shown : ∀ t, E s (.deadline timeout) true t → good () t)
    (unshown : ∀ t, E s (.deadline timeout) false t → bad .clockOverflow t) :
    Ensures E P (Service.deadline timeout) good bad s := by
  refine ensures_bind.mpr ⟨hP, fun answer t e => ?_⟩
  cases answer with
  | true => exact shown t e
  | false => exact unshown t e

/-- Polling goes by what holds whenever the question is asked. -/
theorem Ensures.poll {pause : Nat} {question : Service (Option α)} {good : Option α → σ → Prop} {K : σ → Prop}
    (ask : ∀ t, K t → Ensures E P question
      (fun o u => match o with
        | some a => good (some a) u
        | none => P u (.sleep pause) ∧ ∀ x v, E u (.sleep pause) x v → K v) bad t)
    (late : ∀ t, K t → good none t) : ∀ n s, K s → Ensures E P (Service.poll pause question n) good bad s
  | 0, s, hs => late s hs
  | n + 1, s, hs => by
    unfold Service.poll
    refine ensures_bind.mpr ((ask s hs).post ?_ fun _ _ h => h)
    rintro (_ | a) u hu
    · exact ensures_bind.mpr (ensures_sleep.mpr ⟨hu.1, fun x v hv => Ensures.poll ask late n v (hu.2 x v hv)⟩)
    · exact hu

/-- Polling up to a time limit goes by what the answer about the limit and the pauses keep. -/
theorem Ensures.pollUntil {timeout pause : Nat} {question : Service (Option α)} {tooLate : Failure} {K : σ → Prop}
    (ask : ∀ t, K t → Ensures E P question
      (fun o u => match o with
        | some a => good a u
        | none => P u (.sleep pause) ∧ ∀ x v, E u (.sleep pause) x v → K v) bad t)
    (late : ∀ t, K t → bad tooLate t) (unshown : ∀ t, K t → bad .clockOverflow t) (hP : P s (.deadline timeout))
    (begun : ∀ x t, E s (.deadline timeout) x t → K t) :
    Ensures E P (Service.pollUntil timeout pause question tooLate) good bad s := by
  refine ensures_bind.mpr (Ensures.deadline hP (fun t e => ?_) fun t e => unshown t (begun _ t e))
  refine ensures_bind.mpr ?_
  refine Ensures.poll (K := K) (fun t ht => (ask t ht).post ?_ fun _ _ h => h) (fun t ht => late t ht) _ t (begun _ t e)
  rintro (_ | a) u hu <;> exact hu

/-! ## Lists of services -/

/-- Services that are run for the items of a list go by what holds after a part of the list. -/
theorem Ensures.forM {f : α → Service PUnit} {good : PUnit → σ → Prop} (K : List α → σ → Prop) (l : List α)
    (step : ∀ before a after t, l = before ++ a :: after → K before t →
      Ensures E P (f a) (fun _ u => K (before ++ [a]) u) bad t)
    (last : ∀ t, K l t → good () t) (hs : K [] s) : Ensures E P (l.forM f) good bad s := by
  suffices h : ∀ rest before t, l = before ++ rest → K before t → Ensures E P (rest.forM f) good bad t from
    h l [] s rfl hs
  intro rest
  induction rest with
  | nil => intro before t e ht; exact last t (by rw [e, List.append_nil]; exact ht)
  | cons a rest ih =>
    intro before t e ht
    refine ensures_bind.mpr ((step before a rest t e ht).post (fun _ u hu => ?_) fun _ _ h => h)
    exact ih (before ++ [a]) u (by simp [e]) hu

/-- Services that are run for the items of a list go, with what they give, by what holds after a part of the list. -/
theorem Ensures.mapM {f : α → Service β} {good : List β → σ → Prop} (K : List α → List β → σ → Prop) (l : List α)
    (step : ∀ before a after bs t, l = before ++ a :: after → K before bs t →
      Ensures E P (f a) (fun b u => K (before ++ [a]) (bs ++ [b]) u) bad t)
    (last : ∀ bs t, K l bs t → good bs t) (hs : K [] [] s) : Ensures E P (l.mapM f) good bad s := by
  suffices h : ∀ rest before given t (good : List β → σ → Prop), l = before ++ rest →
      (∀ bs t, K l (given ++ bs) t → good bs t) → K before given t → Ensures E P (rest.mapM f) good bad t from
    h l [] [] s good rfl last hs
  intro rest
  induction rest with
  | nil =>
    intro before given t good e last ht
    refine last [] t ?_
    rw [e, List.append_nil, List.append_nil]
    exact ht
  | cons a rest ih =>
    intro before given t good e last ht
    rw [List.mapM_cons]
    refine ensures_bind.mpr ((step before a rest given t e ht).post (fun b u hu => ?_) fun _ _ h => h)
    refine ensures_bind.mpr (ih (before ++ [a]) (given ++ [b]) u _ (by simp [e]) (fun bs t ht => ?_) hu)
    exact last (b :: bs) t (by rwa [List.append_assoc] at ht)

/-! ## Services that take the items of a list in turn

Where items have keys of their own, a service that takes one item from `A` to `B` and lets the others be takes all items
of a list from `A` to `B`. -/

section

variable {κ : Type} {K : σ → Prop} {A B : α → σ → Prop} {key : α → κ} {l before after : List α} {a : α} {t u : σ}

/-- Part of a list was taken from `A` to `B`, and the rest is still at `A`. -/
structure TakenSoFar (K : σ → Prop) (A B : α → σ → Prop) (key : α → κ) (l before : List α) (t : σ) : Prop where
  kept : K t
  taken : ∀ b ∈ before, B b t
  left : ∀ b ∈ l, key b ∉ before.map key → A b t

/-- An item was taken from `A` to `B`, and the others are where they were. -/
structure Taken (K : σ → Prop) (A B : α → σ → Prop) (key : α → κ) (l : List α) (a : α) (t u : σ) : Prop where
  kept : K u
  taken : B a u
  others : ∀ b ∈ l, key b ≠ key a → (A b t → A b u) ∧ (B b t → B b u)

/-- One more item is taken. -/
theorem TakenSoFar.next (distinct : (l.map key).Nodup) (hl : l = before ++ a :: after)
    (h : TakenSoFar K A B key l before t) (ha : Taken K A B key l a t u) :
    TakenSoFar K A B key l (before ++ [a]) u := by
  have fresh : key a ∉ before.map key := by
    rw [hl, List.map_append, List.map_cons] at distinct
    exact fun mem => (List.nodup_append.mp distinct).2.2 _ mem _ List.mem_cons_self rfl
  refine ⟨ha.kept, fun b mem => ?_, fun b mem left => ?_⟩
  · rcases List.mem_append.mp mem with mem | mem
    · have other : key b ≠ key a := fun same => fresh (same ▸ List.mem_map_of_mem mem)
      exact (ha.others b (by simp [hl, mem]) other).2 (h.taken b mem)
    · obtain rfl := List.mem_singleton.mp mem
      exact ha.taken
  · have other : key b ∉ before.map key ∧ key b ≠ key a := by simpa [not_or] using left
    exact (ha.others b mem other.2).1 (h.left b mem other.1)

/-- The item that is next is still at `A`. -/
theorem TakenSoFar.due (distinct : (l.map key).Nodup) (hl : l = before ++ a :: after)
    (h : TakenSoFar K A B key l before t) : A a t := by
  refine h.left a (by simp [hl]) fun mem => ?_
  rw [hl, List.map_append, List.map_cons] at distinct
  exact (List.nodup_append.mp distinct).2.2 _ mem _ List.mem_cons_self rfl

theorem Ensures.forM_taken {f : α → Service PUnit} (distinct : (l.map key).Nodup)
    (step : ∀ a ∈ l, ∀ t, K t → A a t → Ensures E P (f a) (fun _ u => Taken K A B key l a t u) bad t)
    (kept : K s) (start : ∀ a ∈ l, A a s) : Ensures E P (l.forM f) (fun _ t => K t ∧ ∀ a ∈ l, B a t) bad s := by
  refine Ensures.forM (TakenSoFar K A B key l) l (fun before a after t hl ht => ?_) (fun t ht => ⟨ht.kept, ht.taken⟩)
    ⟨kept, by simp, fun b mem _ => start b mem⟩
  exact (step a (by simp [hl]) t ht.kept (ht.due distinct hl)).post (fun _ u hu => ht.next distinct hl hu)
    fun _ _ h => h

theorem Ensures.mapM_taken {f : α → Service β} (g : α → β) (distinct : (l.map key).Nodup)
    (step : ∀ a ∈ l, ∀ t, K t → A a t → Ensures E P (f a) (fun b u => b = g a ∧ Taken K A B key l a t u) bad t)
    (kept : K s) (start : ∀ a ∈ l, A a s) :
    Ensures E P (l.mapM f) (fun bs t => bs = l.map g ∧ K t ∧ ∀ a ∈ l, B a t) bad s := by
  refine Ensures.mapM (fun before bs t => bs = before.map g ∧ TakenSoFar K A B key l before t) l
    (fun before a after bs t hl ht => ?_) (fun bs t ht => ⟨ht.1, ht.2.kept, ht.2.taken⟩)
    ⟨rfl, kept, by simp, fun b mem _ => start b mem⟩
  refine (step a (by simp [hl]) t ht.2.kept (ht.2.due distinct hl)).post (fun b u hu => ⟨?_, ?_⟩) fun _ _ h => h
  · rw [ht.1, hu.1, List.map_append, List.map_singleton]
  · exact ht.2.next distinct hl hu.2

end

end Service

end ClusterVolumes
