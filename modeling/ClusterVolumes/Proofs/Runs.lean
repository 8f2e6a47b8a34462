import ClusterVolumes.Service

/-!
# What holds along every run of a program

An `Environment` says how requests may be answered and which states may follow, so it can leave answers open.
`Program.Ensures` follows every run that an environment allows: `P` holds whenever a request is made, and `Q` of the
value and the state at the end.

- `ensures_bind`, `Ensures.mono`, `Ensures.and`: a sequence is followed part by part, and what is known is put together;
- `Ensures.and_invariant`: what each answer keeps, holds at every request and at the end;
- `Ensures.lift`: a run is a run of what a view shows of it;
- `ensures_ofHandler`: a handler is an environment, and what is ensured is what `Program.Always` and `Program.run` say.

`Program.RunsTo` is a single run of those, so that statements can compare runs: `runsTo_bind` cuts a run of a sequence
in two (`runsTo_exceptBind` if its parts may fail), and `Ensures.runsTo` reads off what is ensured.

A history holds the exchanges of a run so far, the latest first. In `anyAnswers` the history is the whole state and
every answer may come, in `answersOf` every answer that makes an exchange of a kind; `recording` keeps a history beside
the state of a handler. `Ensures.remembered` carries what holds for all answers over to every environment that
`Remembers` its history.
-/

namespace ClusterVolumes

/-- How requests may be answered in a state, and the states that may follow. -/
abbrev Environment (I : Interface) (σ : Type) : Type :=
  σ → (r : I.Request) → I.Answer r → σ → Prop

namespace Program

variable {I : Interface} {α β σ τ : Type}

/-- Along every run, `P` holds whenever a request is made, and `Q` at the end. -/
def Ensures (E : Environment I σ) (P : σ → I.Request → Prop) : Program I α → (α → σ → Prop) → σ → Prop
  | .done a, Q, s => Q a s
  | .ask r next, Q, s => P s r ∧ ∀ x t, E s r x t → (next x).Ensures E P Q t

section Rules

variable {E : Environment I σ} {P P' : σ → I.Request → Prop}

/-- A sequence is followed through its first part and then through its second. -/
theorem ensures_bind {p : Program I α} {f : α → Program I β} {Q : β → σ → Prop} {s : σ} :
    (p.bind f).Ensures E P Q s ↔ p.Ensures E P (fun a t => (f a).Ensures E P Q t) s := by
  induction p generalizing s with
  | done a => exact Iff.rfl
  | ask r next ih =>
    simp only [bind_ask, Ensures]
    exact and_congr_right fun _ => forall_congr' fun x => forall_congr' fun t => imp_congr_right fun _ => ih x

theorem Ensures.mono {p : Program I α} {Q Q' : α → σ → Prop} {s : σ} (h : p.Ensures E P Q s)
    (hP : ∀ s r, P s r → P' s r) (hQ : ∀ a s, Q a s → Q' a s) : p.Ensures E P' Q' s := by
  induction p generalizing s with
  | done a => exact hQ _ _ h
  | ask r next ih => exact ⟨hP _ _ h.1, fun x t ht => ih x (h.2 x t ht)⟩

/-- The same run, with less known of its end. -/
theorem Ensures.post {p : Program I α} {Q Q' : α → σ → Prop} {s : σ} (h : p.Ensures E P Q s)
    (hQ : ∀ a s, Q a s → Q' a s) : p.Ensures E P Q' s :=
  h.mono (fun _ _ h => h) hQ

theorem Ensures.and {p : Program I α} {Q Q' : α → σ → Prop} {s : σ} (h : p.Ensures E P Q s)
    (h' : p.Ensures E P' Q' s) :
    p.Ensures E (fun s r => P s r ∧ P' s r) (fun a s => Q a s ∧ Q' a s) s := by
  induction p generalizing s with
  | done a => exact ⟨h, h'⟩
  | ask r next ih => exact ⟨⟨h.1, h'.1⟩, fun x t ht => ih x (h.2 x t ht) (h'.2 x t ht)⟩

/-- What every answer keeps holds at every request and at the end. -/
theorem Ensures.and_invariant {p : Program I α} {Q : α → σ → Prop} {K : σ → Prop} {s : σ}
    (h : p.Ensures E P Q s) (hK : ∀ s r x t, K s → P s r → E s r x t → K t) (hs : K s) :
    p.Ensures E (fun s r => P s r ∧ K s) (fun a s => Q a s ∧ K s) s := by
  induction p generalizing s with
  | done a => exact ⟨h, hs⟩
  | ask r next ih =>
    exact ⟨⟨h.1, hs⟩, fun x t ht => ih x (h.2 x t ht) (hK _ _ _ _ hs h.1 ht)⟩

/-- Nothing is asked of a run, and nothing is known of its end. -/
theorem ensures_trivial {p : Program I α} {s : σ} : p.Ensures E (fun _ _ => True) (fun _ _ => True) s := by
  induction p generalizing s with
  | done a => trivial
  | ask r next ih => exact ⟨trivial, fun x t _ => ih x⟩

/-- A run is also a run of what a view shows of its states. -/
theorem Ensures.lift {E' : Environment I τ} {p : Program I α} {Q : α → σ → Prop} (view : τ → σ)
    (hE : ∀ s r x t, E' s r x t → E (view s) r x (view t)) {s : τ} (h : p.Ensures E P Q (view s)) :
    p.Ensures E' (fun s r => P (view s) r) (fun a s => Q a (view s)) s := by
  induction p generalizing s with
  | done a => exact h
  | ask r next ih => exact ⟨h.1, fun x t ht => ih x (h.2 x _ (hE _ _ _ _ ht))⟩

end Rules

/-! ## Single runs -/

/-- One run of a program: it begins in a state and comes to a value and another state. -/
inductive RunsTo (E : Environment I σ) : Program I α → σ → α → σ → Prop
  | done (a : α) (s : σ) : RunsTo E (.done a) s a s
  | ask {r : I.Request} {next : I.Answer r → Program I α} {s t u : σ} {a : α} (x : I.Answer r) :
      E s r x t → RunsTo E (next x) t a u → RunsTo E (.ask r next) s a u

section SingleRuns

variable {E : Environment I σ} {s t u : σ}

theorem runsTo_done {a b : α} : (Program.done a).RunsTo E s b t ↔ b = a ∧ t = s := by
  constructor
  · intro h
    cases h
    exact ⟨rfl, rfl⟩
  · rintro ⟨rfl, rfl⟩
    exact .done b t

theorem runsTo_ask {r : I.Request} {next : I.Answer r → Program I α} {a : α} :
    (Program.ask r next).RunsTo E s a u ↔ ∃ x t, E s r x t ∧ (next x).RunsTo E t a u := by
  constructor
  · intro h
    cases h with
    | ask x e run => exact ⟨x, _, e, run⟩
  · rintro ⟨x, t, e, run⟩
    exact .ask x e run

/-- A run of a sequence is a run of its first part and one of its second. -/
theorem runsTo_bind {p : Program I α} {f : α → Program I β} {b : β} :
    (p.bind f).RunsTo E s b u ↔ ∃ a t, p.RunsTo E s a t ∧ (f a).RunsTo E t b u := by
  induction p generalizing s with
  | done a =>
    constructor
    · intro h
      exact ⟨a, s, .done a s, h⟩
    · rintro ⟨a', t, h, h'⟩
      obtain ⟨rfl, rfl⟩ := runsTo_done.mp h
      exact h'
  | ask r next ih =>
    simp only [bind_ask, runsTo_ask, ih]
    constructor
    · rintro ⟨x, t, e, a, v, h, h'⟩
      exact ⟨a, v, ⟨x, t, e, h⟩, h'⟩
    · rintro ⟨a, v, ⟨x, t, e, h⟩, h'⟩
      exact ⟨x, t, e, a, v, h, h'⟩

/-- A run of a sequence whose parts may fail goes on with the value of its first part, or ends with its failure. -/
theorem runsTo_exceptBind {ε : Type} {x : ExceptT ε (Program I) α} {f : α → ExceptT ε (Program I) β}
    {outcome : Except ε β} :
    (x >>= f).run.RunsTo E s outcome t ↔
      (∃ a u, x.run.RunsTo E s (.ok a) u ∧ (f a).run.RunsTo E u outcome t) ∨
        ∃ e, outcome = .error e ∧ x.run.RunsTo E s (.error e) t := by
  rw [ExceptT.run_bind]
  refine runsTo_bind.trans ?_
  constructor
  · rintro ⟨e | a, u, first, rest⟩
    · obtain ⟨rfl, rfl⟩ := runsTo_done.mp rest
      exact .inr ⟨e, rfl, first⟩
    · exact .inl ⟨a, u, first, rest⟩
  · rintro (⟨a, u, first, rest⟩ | ⟨e, rfl, first⟩)
    · exact ⟨.ok a, u, first, rest⟩
    · exact ⟨.error e, t, first, .done _ _⟩

/-- A request is run by asking it. -/
theorem runsTo_request {r : I.Request} {x : I.Answer r} : (request r).RunsTo E s x t ↔ E s r x t := by
  constructor
  · intro run
    obtain ⟨x, u, e, done⟩ := runsTo_ask.mp run
    obtain ⟨rfl, rfl⟩ := runsTo_done.mp done
    exact e
  · intro e
    exact .ask x e (.done _ _)

/-- What is ensured holds at the end of every run. -/
theorem Ensures.runsTo {P : σ → I.Request → Prop} {p : Program I α} {Q : α → σ → Prop} {a : α}
    (h : p.Ensures E P Q s) (run : p.RunsTo E s a t) : Q a t := by
  induction run with
  | done a s => exact h
  | ask x e _ ih => exact ih (h.2 x _ e)

end SingleRuns

/-! ## Handlers as environments -/

/-- The environment in which a handler gives the answers. -/
def ofHandler (h : Handler I σ) : Environment I σ :=
  fun s r x t => h r s = (x, t)

/-- Under a handler there is one run. -/
theorem ensures_ofHandler {h : Handler I σ} {P : σ → I.Request → Prop} {p : Program I α} {Q : α → σ → Prop} {s : σ} :
    p.Ensures (ofHandler h) P Q s ↔ p.Always h P s ∧ Q (p.run h s).1 (p.run h s).2 := by
  induction p generalizing s with
  | done a => simp [Ensures, Always, run]
  | ask r next ih =>
    simp only [Ensures, Always, run, ofHandler, and_assoc]
    refine and_congr_right fun _ => ?_
    rw [← ih (h r s).1 (s := (h r s).2)]
    exact ⟨fun H => H _ _ rfl, fun H x t ht => by rw [ht] at H; exact H⟩

/-! ## Histories -/

/-- A request with the answer that it got. -/
structure Exchange (I : Interface) where
  request : I.Request
  answer : I.Answer request

/-- The environment in which any request may get any answer; its state holds the exchanges so far, the latest first. -/
def anyAnswers : Environment I (List (Exchange I)) :=
  fun past r x now => now = ⟨r, x⟩ :: past

/-- The environment in which every answer may come that makes an exchange of a kind. -/
def answersOf (K : Exchange I → Prop) : Environment I (List (Exchange I)) :=
  fun past r x now => now = ⟨r, x⟩ :: past ∧ K ⟨r, x⟩

/-- A handler that also keeps the exchanges, the latest first. -/
def recording (h : Handler I σ) : Handler I (σ × List (Exchange I)) :=
  fun r s => ((h r s.1).1, ((h r s.1).2, ⟨r, (h r s.1).1⟩ :: s.2))

theorem recording_eq {h : Handler I σ} {s t : σ × List (Exchange I)} {r : I.Request} {x : I.Answer r} :
    ofHandler (recording h) s r x t ↔ h r s.1 = (x, t.1) ∧ t.2 = ⟨r, x⟩ :: s.2 := by
  obtain ⟨t, now⟩ := t
  simp only [ofHandler, recording, Prod.mk.injEq]
  constructor
  · rintro ⟨rfl, rfl, rfl⟩
    exact ⟨rfl, rfl⟩
  · rintro ⟨e, rfl⟩
    rw [e]
    exact ⟨rfl, rfl, rfl⟩

/-- The states of an environment tell the exchanges that led to them, the latest first. -/
def Remembers (E : Environment I σ) (past : σ → List (Exchange I)) : Prop :=
  ∀ s r x t, E s r x t → past t = ⟨r, x⟩ :: past s

theorem remembers_anyAnswers : Remembers (anyAnswers (I := I)) id :=
  fun _ _ _ _ e => e

theorem remembers_recording (h : Handler I σ) : Remembers (ofHandler (recording h)) Prod.snd :=
  fun _ _ _ _ e => (recording_eq.mp e).2

/-- What is ensured whatever the answers are, holds of the exchanges that an environment remembers. -/
theorem Ensures.remembered {E : Environment I σ} {past : σ → List (Exchange I)} (hE : Remembers E past)
    {P : List (Exchange I) → I.Request → Prop} {p : Program I α} {Q : α → List (Exchange I) → Prop} {s : σ}
    (h : p.Ensures anyAnswers P Q (past s)) :
    p.Ensures E (fun s r => P (past s) r) (fun a s => Q a (past s)) s :=
  h.lift past fun s r x t e => hE s r x t e

/-- A run is made of the exchanges that its environment remembers. -/
theorem RunsTo.remembered {E : Environment I σ} {past : σ → List (Exchange I)} (hE : Remembers E past) {p : Program I α}
    {a : α} {s t : σ} (run : p.RunsTo E s a t) : p.RunsTo anyAnswers (past s) a (past t) := by
  induction run with
  | done a s => exact .done a (past s)
  | ask x e _ ih => exact .ask x (hE _ _ _ _ e) ih

/-- A history only grows along a run. -/
theorem RunsTo.grows {p : Program I α} {a : α} {past now : List (Exchange I)} (run : p.RunsTo anyAnswers past a now) :
    past <:+ now := by
  induction run with
  | done a s => exact List.suffix_rfl
  | ask x e _ ih =>
    cases e
    exact (List.suffix_cons _ _).trans ih

/-- What a program asks does not hang on what was asked before it. -/
theorem RunsTo.shift {p : Program I α} {a : α} {past now : List (Exchange I)} (run : p.RunsTo anyAnswers past a now) :
    ∃ made, now = made ++ past ∧ ∀ other, p.RunsTo anyAnswers other a (made ++ other) := by
  induction run with
  | done a s => exact ⟨[], rfl, fun other => .done a other⟩
  | @ask r next s t u a x e _ ih =>
    cases e
    obtain ⟨made, rfl, run⟩ := ih
    refine ⟨made ++ [⟨r, x⟩], by simp, fun other => .ask x rfl ?_⟩
    rw [List.append_assoc]
    exact run (⟨r, x⟩ :: other)

/-- In the runs with exchanges of a kind, every exchange is of that kind. -/
theorem runsTo_answersOf {K : Exchange I → Prop} {p : Program I α} {a : α} {past now : List (Exchange I)}
    (hpast : ∀ e ∈ past, K e) :
    p.RunsTo (answersOf K) past a now ↔ p.RunsTo anyAnswers past a now ∧ ∀ e ∈ now, K e := by
  constructor
  · intro run
    induction run with
    | done a s => exact ⟨.done a s, hpast⟩
    | ask x e _ ih =>
      obtain ⟨rfl, hx⟩ := e
      obtain ⟨run, all⟩ := ih (List.forall_mem_cons.mpr ⟨hx, hpast⟩)
      exact ⟨.ask x rfl run, all⟩
  · rintro ⟨run, all⟩
    induction run with
    | done a s => exact .done a s
    | ask x e run ih =>
      cases e
      have hx := all _ (run.grows.subset List.mem_cons_self)
      exact .ask x ⟨rfl, hx⟩ (ih (List.forall_mem_cons.mpr ⟨hx, hpast⟩) all)

/-- What is ensured without a word about the history, is ensured of the handler itself. -/
theorem Ensures.unrecorded {h : Handler I σ} {P : σ → I.Request → Prop} {p : Program I α} {Q : α → σ → Prop}
    {s : σ} {past : List (Exchange I)}
    (H : p.Ensures (ofHandler (recording h)) (fun t r => P t.1 r) (fun a t => Q a t.1) (s, past)) :
    p.Ensures (ofHandler h) P Q s := by
  induction p generalizing s past with
  | done a => exact H
  | ask r next ih => exact ⟨H.1, fun x t ht => ih x (H.2 x (t, ⟨r, x⟩ :: past) (recording_eq.mpr ⟨ht, rfl⟩))⟩

/-- Under a handler a program runs as `Program.run` says, and the answers are some that may come. -/
theorem runsTo_recording (h : Handler I σ) (p : Program I α) (s : σ) (past : List (Exchange I)) :
    p.RunsTo anyAnswers past (p.run (recording h) (s, past)).1 (p.run (recording h) (s, past)).2.2 := by
  induction p generalizing s past with
  | done a => exact .done a past
  | ask r next ih => exact .ask _ rfl (ih _ _ _)

/-- A run under a handler is a run in every environment that allows its answers in what a view shows of the states. -/
theorem runsTo_view {h : Handler I σ} {E : Environment I τ} {K : σ → Prop} (view : σ × List (Exchange I) → τ)
    (keeps : ∀ r s, K s → K (h r s).2)
    (allows : ∀ r s, K s.1 → E (view s) r (recording h r s).1 (view (recording h r s).2)) (p : Program I α)
    {s : σ × List (Exchange I)} (hs : K s.1) :
    p.RunsTo E (view s) (p.run (recording h) s).1 (view (p.run (recording h) s).2) := by
  induction p generalizing s with
  | done a => exact .done a (view s)
  | ask r next ih => exact .ask _ (allows r s hs) (ih _ (keeps r s.1 hs))

/-- If one exchange of a history is of a kind and no other is, the exchange of that kind is this one. -/
theorem eq_of_alone {kind : I.Request → Bool} {later earlier later' earlier' : List (Exchange I)} {e e' : Exchange I}
    (after : ∀ x ∈ later, kind x.request = false) (before : ∀ x ∈ earlier, kind x.request = false)
    (split : later ++ e :: earlier = later' ++ e' :: earlier') (h : kind e'.request = true) :
    e' = e ∧ earlier' = earlier := by
  rcases List.append_eq_append_iff.mp split with ⟨between, -, same⟩ | ⟨between, rfl, same⟩
  · cases between with
    | nil =>
      obtain ⟨rfl, rfl⟩ := List.cons.inj same
      exact ⟨rfl, rfl⟩
    | cons x between =>
      have mem : e' ∈ earlier := by
        rw [(List.cons.inj same).2]
        simp
      rw [before e' mem] at h
      cases h
  · cases between with
    | nil =>
      obtain ⟨rfl, rfl⟩ := List.cons.inj same
      exact ⟨rfl, rfl⟩
    | cons x between =>
      have mem : e' ∈ later' ++ x :: between := by
        rw [(List.cons.inj same).1]
        simp
      rw [after e' mem] at h
      cases h

/-- The exchanges are those by which a handler comes from one state to another. -/
inductive Replays (h : Handler I σ) (s : σ) : List (Exchange I) → σ → Prop
  | nil : Replays h s [] s
  | cons {past : List (Exchange I)} {t : σ} (r : I.Request) :
      Replays h s past t → Replays h s (⟨r, (h r t).1⟩ :: past) (h r t).2

/-- The latest exchange was made in the state to which the others lead. -/
theorem Replays.latest {h : Handler I σ} {s u : σ} {past : List (Exchange I)} {r : I.Request} {x : I.Answer r}
    (H : Replays h s (⟨r, x⟩ :: past) u) : ∃ t, Replays h s past t ∧ h r t = (x, u) := by
  cases H with
  | cons r H => exact ⟨_, H, rfl⟩

/-- The earlier part of a history was replayed first, and then the later one. -/
theorem Replays.parts {h : Handler I σ} {s t : σ} : ∀ {later earlier : List (Exchange I)},
    Replays h s (later ++ earlier) t → ∃ u, Replays h s earlier u ∧ Replays h u later t
  | [], _, H => ⟨t, H, .nil⟩
  | _ :: _, _, .cons r H => by
    obtain ⟨u, before, after⟩ := H.parts
    exact ⟨u, before, after.cons r⟩

theorem Replays.earlier {h : Handler I σ} {s t : σ} {later earlier : List (Exchange I)}
    (H : Replays h s (later ++ earlier) t) : ∃ u, Replays h s earlier u := by
  obtain ⟨u, before, -⟩ := H.parts
  exact ⟨u, before⟩

/-- Keeping the exchanges changes neither the outcome nor the state. -/
theorem run_recording (h : Handler I σ) (p : Program I α) (s : σ) (past : List (Exchange I)) :
    (p.run (recording h) (s, past)).1 = (p.run h s).1 ∧ (p.run (recording h) (s, past)).2.1 = (p.run h s).2 := by
  induction p generalizing s past with
  | done a => exact ⟨rfl, rfl⟩
  | ask r next ih => exact ih _ _ _

/-- A recorded history replays. -/
theorem replays_recording {h : Handler I σ} {s : σ} {t u : σ × List (Exchange I)} {r : I.Request} {x : I.Answer r}
    (H : Replays h s t.2 t.1) (e : ofHandler (recording h) t r x u) : Replays h s u.2 u.1 := by
  obtain ⟨hx, hu⟩ := recording_eq.mp e
  have H := H.cons r
  rw [hx] at H
  exact hu ▸ H

/-- The exchanges that are kept along a run replay it. -/
theorem replays_run (h : Handler I σ) (p : Program I α) (s : σ) :
    Replays h s (p.run (recording h) (s, [])).2.2 (p.run (recording h) (s, [])).2.1 := by
  have kept : p.Ensures (ofHandler (recording h)) (fun _ _ => True ∧ True) (fun _ t => Replays h s t.2 t.1) (s, []) :=
    (ensures_trivial.and_invariant (fun _ _ _ _ H _ e => replays_recording H e) .nil).mono
      (fun _ _ _ => ⟨trivial, trivial⟩) fun _ _ H => H.2
  exact (ensures_ofHandler.mp kept).2

end Program

end ClusterVolumes
