import ClusterVolumes.Proofs.History

/-!
# The calls that a service may make

`Service.Asks` says that a service makes calls of a kind only, whatever it is answered. Nothing is said of the order of
the calls, so a service asks what its parts ask: there is one rule for each way of building a service, and none of them
looks at states.

So what such calls keep holds along every run of the service, in any environment that remembers its exchanges
(`Asks.ensures`).

`Service.Within` sorts the calls by what they are about, which is enough for services that leave nodes or volumes alone.
-/

namespace ClusterVolumes

open Orchestrator

/-! ## Subjects -/

namespace Orchestrator

/-- What a request to the orchestrator is about. -/
inductive Subject
  | nodes
  | pods
  | volumes
  | claims
  | grants
  deriving DecidableEq, Repr

def Request.subject : Request → Subject
  | .node _ | .setUnschedulable .. | .nodeDrivers => .nodes
  | .pods _ | .deletePod .. => .pods
  | .volume _ | .createVolume _ | .replaceVolume _ | .deleteVolume _ => .volumes
  | .claim .. | .createClaim .. | .deleteClaim .. => .claims
  | .mayI .. => .grants

end Orchestrator

/-- Does the call go to a cluster, let time pass, or ask the orchestrator about one of some subjects? -/
def Call.isWithin (subjects : List Subject) : Call → Bool
  | .cluster .. => true
  | .sleep _ | .deadline _ => true
  | .orchestrator r => subjects.contains r.subject
  | _ => false

theorem Call.isWithin_mono {subjects more : List Subject} (h : subjects ⊆ more) {c : Call}
    (hc : c.isWithin subjects = true) : c.isWithin more = true := by
  cases c with
  | orchestrator r =>
    simp only [isWithin, List.contains_iff_mem] at hc ⊢
    exact h hc
  | _ => exact hc

namespace Service

/-! ## Footprints -/

variable {σ α β : Type} {kind : Call → Prop}

/-- Whatever it is answered, the service makes calls of a kind only. -/
def Asks (service : Service α) (kind : Call → Prop) : Prop :=
  ∀ past, Ensures anyAnswers (fun _ call => kind call) service (fun _ _ => True) (fun _ _ => True) past

/-- What such calls keep holds at every call and at the end. -/
theorem Asks.ensures {E : Environment collaborators σ} {past : σ → History} (hE : Program.Remembers E past)
    {P : σ → Call → Prop} {K : σ → Prop} {service : Service α} (h : service.Asks kind)
    (may : ∀ s call, kind call → K s → P s call)
    (keeps : ∀ s call x t, kind call → K s → E s call x t → K t) {s : σ} (hs : K s) :
    Ensures E P service (fun _ t => K t) (fun _ t => K t) s := by
  have kept := ((h (past s)).remembered hE).and_invariant (K := K)
    (fun s call x t hs hc e => keeps s call x t hc hs e) hs
  exact kept.mono (fun s call h => may s call h.1 h.2) (fun _ _ h => h.2) fun _ _ h => h.2

/-- What each such exchange keeps of the history holds at the end, whatever the answers are. -/
theorem Asks.keeps {service : Service α} (h : service.Asks kind) {K : History → Prop}
    (keeps : ∀ (past : History) (e : Program.Exchange collaborators), kind e.request → K past → K (e :: past))
    {past : History} (hs : K past) :
    Ensures anyAnswers (fun _ _ => True) service (fun _ t => K t) (fun _ t => K t) past := by
  refine h.ensures Program.remembers_anyAnswers (fun _ _ _ _ => trivial) ?_ hs
  rintro s call x t hcall hs rfl
  exact keeps s ⟨call, x⟩ hcall hs

theorem Asks.mono {service : Service α} {kind' : Call → Prop} (h : service.Asks kind)
    (hk : ∀ call, kind call → kind' call) : service.Asks kind' := by
  intro past
  exact (h past).mono (fun _ call hc => hk call hc) (fun _ _ h => h) fun _ _ h => h

/-- Of the orchestrator, the service asks about some subjects only. -/
abbrev Within (service : Service α) (subjects : List Subject) : Prop :=
  service.Asks fun call => call.isWithin subjects = true

/-- A service that stays with some subjects stays with more. -/
theorem Within.widen {service : Service α} {subjects more : List Subject} (h : service.Within subjects)
    (hs : subjects ⊆ more) : service.Within more :=
  h.mono fun _ hc => Call.isWithin_mono hs hc

/-! ## Rules -/

theorem asks_pure {a : α} : Asks (pure a) kind :=
  fun _ => trivial

theorem asks_throw {f : Failure} : Asks (throw f : Service α) kind :=
  fun _ => trivial

theorem asks_ofExcept {e : Except Failure α} : Asks (ofExcept e) kind := by
  cases e <;> exact fun _ => trivial

theorem asks_require {o : Option α} {f : Failure} : Asks (require o f) kind := by
  cases o
  · exact asks_throw
  · exact asks_pure

theorem Asks.bind {service : Service α} {next : α → Service β} (h : service.Asks kind)
    (hnext : ∀ a, (next a).Asks kind) : Asks (service >>= next) kind := by
  intro past
  refine ensures_bind.mpr ((h past).post ?_ fun _ _ h => h)
  intro a t _
  exact hnext a t

/-- What was computed is known of what comes next. -/
theorem asks_computed {e : Except Failure α} {next : α → Service β} (h : ∀ a, e = .ok a → (next a).Asks kind) :
    Asks (ofExcept e >>= next) kind := by
  intro past
  refine ensures_bind.mpr (ensures_ofExcept.mpr ?_)
  cases computed : e with
  | error f => trivial
  | ok a => exact h a computed past

/-- A value that must be there is known of what comes next. -/
theorem asks_required {o : Option α} {f : Failure} {next : α → Service β} (h : ∀ a, o = some a → (next a).Asks kind) :
    Asks (require o f >>= next) kind := by
  intro past
  refine ensures_bind.mpr (ensures_require.mpr ⟨fun a found => ?_, fun _ => trivial⟩)
  exact h a found past

theorem asks_cluster {region : String} {r : Hypervisor.Request} (h : kind (.cluster region r)) :
    (cluster region r).Asks kind :=
  fun _ => ask_cluster h (fun _ => trivial) fun _ => trivial

theorem asks_orchestrator {r : Request} (h : kind (.orchestrator r)) : (orchestrator r).Asks kind :=
  fun _ => ask_orchestrator h (fun _ => trivial) fun _ => trivial

theorem asks_mounts {r : Mount.Request} (h : kind (.mounts r)) : (mounts r).Asks kind :=
  fun _ => ⟨h, fun x _ _ => by cases x <;> trivial⟩

theorem asks_files (h : kind .files) : files.Asks kind :=
  fun _ => ⟨h, fun _ _ _ => trivial⟩

theorem asks_makeFolders {path : String} (h : kind (.makeFolders path)) : (makeFolders path).Asks kind :=
  fun _ => ⟨h, fun _ _ _ => trivial⟩

theorem asks_sleep {ms : Nat} (h : kind (.sleep ms)) : (sleep ms).Asks kind :=
  fun _ => ask_sleep h trivial

theorem asks_deadline {ms : Nat} (h : kind (.deadline ms)) : (deadline ms).Asks kind :=
  fun _ => ask_deadline h trivial trivial

theorem cluster_within (region : String) (r : Hypervisor.Request) (subjects : List Subject) :
    (cluster region r).Within subjects :=
  asks_cluster rfl

theorem orchestrator_within {r : Request} {subjects : List Subject} (h : subjects.contains r.subject = true) :
    (orchestrator r).Within subjects :=
  asks_orchestrator h

theorem Asks.attempt {service : Service α} (h : service.Asks kind) : service.attempt.Asks kind :=
  fun past => ensures_attempt.mpr (h past)

theorem Asks.rewording {service : Service α} {words : Failure → Failure} (h : service.Asks kind) :
    (service.rewording words).Asks kind :=
  fun past => ensures_rewording.mpr (h past)

theorem asks_acquire {key : String} (h : kind (.acquire key)) : (acquire key).Asks kind :=
  fun _ => ensures_acquire.mpr ⟨h, fun _ _ _ => trivial⟩

theorem asks_release {key : String} (h : kind (.release key)) : (release key).Asks kind :=
  fun _ => ensures_release.mpr ⟨h, fun _ _ _ => trivial⟩

theorem Asks.holding {key : String} {service : Service α} (h : service.Asks kind) (ha : kind (.acquire key))
    (hr : kind (.release key)) : (Service.holding key service).Asks kind := by
  unfold Service.holding
  refine (asks_acquire ha).bind fun _ => h.attempt.bind fun outcome => ?_
  exact (asks_release hr).bind fun _ => asks_ofExcept

theorem Asks.poll {pause : Nat} {question : Service (Option α)} (h : question.Asks kind)
    (hs : kind (.sleep pause)) : ∀ n, (Service.poll pause question n).Asks kind
  | 0 => asks_pure
  | n + 1 => by
    unfold Service.poll
    refine h.bind fun o => ?_
    cases o with
    | some a => exact asks_pure
    | none => exact (asks_sleep hs).bind fun _ => Asks.poll h hs n

theorem Asks.pollUntil {timeout pause : Nat} {question : Service (Option α)} {late : Failure}
    (h : question.Asks kind) (hs : kind (.sleep pause)) (hd : kind (.deadline timeout)) :
    (Service.pollUntil timeout pause question late).Asks kind := by
  unfold Service.pollUntil
  exact (asks_deadline hd).bind fun _ => (h.poll hs _).bind fun _ => asks_require

theorem Asks.forM {f : α → Service PUnit} {l : List α} (h : ∀ a ∈ l, (f a).Asks kind) : Asks (l.forM f) kind := by
  induction l with
  | nil => exact asks_pure
  | cons a l ih =>
    have first := h a List.mem_cons_self
    refine Asks.bind first fun _ => ih ?_
    intro b hb
    exact h b (List.mem_cons_of_mem a hb)

theorem Asks.mapM {f : α → Service β} {l : List α} (h : ∀ a ∈ l, (f a).Asks kind) : Asks (l.mapM f) kind := by
  induction l with
  | nil => exact asks_pure
  | cons a l ih =>
    rw [List.mapM_cons]
    have first := h a List.mem_cons_self
    have rest : Asks (l.mapM f) kind := ih fun b hb => h b (List.mem_cons_of_mem a hb)
    exact first.bind fun _ => rest.bind fun _ => asks_pure

end Service

end ClusterVolumes
