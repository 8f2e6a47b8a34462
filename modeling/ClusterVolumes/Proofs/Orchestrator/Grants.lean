import Mathlib.Data.List.Forall2
import ClusterVolumes.Maintenance.Grants
import ClusterVolumes.Orchestrator.Client
import ClusterVolumes.Proofs.Http.Runs

/-!
# What the orchestrator must grant

The orchestrator serves a request that changes objects only if that is granted: a `POST` to a collection is to create
its objects, a `PUT` to update them, a `PATCH` to patch and a `DELETE` to delete them. `Request.grants` lists what is
needed for what the driver asks. These are the grants under which the requests stand that are sent for it, in turn, up
to where the sending ends (`perform_stands`); deleting a volume or a claim for good needs two.
-/

namespace ClusterVolumes

open Http (Method Sent)

/-- The verb of a grant for what is done by a method, none if it changes nothing. -/
def Http.Method.verb? : Method → Option String
  | .get => none
  | .post => some "create"
  | .put => some "update"
  | .patch => some "patch"
  | .delete => some "delete"

namespace Orchestrator

/-- The grants that a request needs, in the order in which they are used. -/
def Request.grants : Request → List Grant
  | .setUnschedulable .. => [⟨"patch", "nodes"⟩]
  | .deletePod .. => [⟨"delete", "pods"⟩]
  | .createVolume _ => [⟨"create", "persistentvolumes"⟩]
  | .replaceVolume _ => [⟨"update", "persistentvolumes"⟩]
  | .deleteVolume _ => [⟨"delete", "persistentvolumes"⟩, ⟨"patch", "persistentvolumes"⟩]
  | .createClaim .. => [⟨"create", "persistentvolumeclaims"⟩]
  | .deleteClaim .. => [⟨"delete", "persistentvolumeclaims"⟩, ⟨"patch", "persistentvolumeclaims"⟩]
  | _ => []

/-- A request that changes nothing needs no grant. -/
theorem Request.grants_of_not_mutates {r : Request} (h : r.mutates = false) : r.grants = [] := by
  cases r <;> first | rfl | cases h

/-- The namespace that a request which changes an object is about, none if the object is outside of all namespaces. -/
def Request.space? : Request → Option String
  | .deletePod space _ | .createClaim space _ | .deleteClaim space _ => some space
  | _ => none

/-- Where the objects of a kind are kept. -/
def objectsPath (resource : String) (space : Option String) : String :=
  Collection.path { root := "/api/v1/", plural := resource, codec := Codec.any, space }

/-- What is sent stands under a grant: it does what the verb says to objects of the kind. -/
def StandsUnder (space : Option String) (g : Grant) (sent : Http.Request) : Prop :=
  sent.method.verb? = some g.verb ∧ ∃ rest, Http.target? (objectsPath g.resource space ++ rest) = some sent.target

/-! ## Exchanges that send one request -/

section

variable {α β : Type} {P Q : Http.Request → Prop}

/-- Nothing is sent. -/
def Silent (x : Http.Exchange α) : Prop :=
  ∀ past outcome t, x.run.RunsTo Program.anyAnswers past outcome t → t = past

/-- Whatever is replied, one request is sent, or none because it cannot be sent. -/
def SendsOne (x : Http.Exchange α) (P : Http.Request → Prop) : Prop :=
  ∀ past outcome t, x.run.RunsTo Program.anyAnswers past outcome t →
    (outcome = .error unsendable ∧ t = past) ∨ ∃ request reply, P request ∧ t = ⟨request, reply⟩ :: past

theorem silent_pure {a : α} : Silent (pure a : Http.Exchange α) :=
  fun _ _ _ run => (Program.runsTo_done.mp run).2

theorem silent_readAs (c : Codec α) (body : String) : Silent (readAs c body) := by
  unfold readAs
  split <;> exact fun _ _ _ run => (Program.runsTo_done.mp run).2

theorem Silent.bind {x : Http.Exchange α} {f : α → Http.Exchange β} (h : Silent x) (hf : ∀ a, Silent (f a)) :
    Silent (x >>= f) := by
  intro past outcome t run
  rcases Http.runsTo_bind.mp run with ⟨a, u, first, rest⟩ | ⟨e, -, first⟩
  · rw [hf a _ _ _ rest, h _ _ _ first]
  · exact h _ _ _ first

/-- What is made of the reply sends nothing more. -/
theorem SendsOne.bind {x : Http.Exchange α} {f : α → Http.Exchange β} (h : SendsOne x P) (hf : ∀ a, Silent (f a)) :
    SendsOne (x >>= f) P := by
  intro past outcome t run
  rcases Http.runsTo_bind.mp run with ⟨a, u, first, rest⟩ | ⟨e, rfl, first⟩
  · obtain rfl := hf a _ _ _ rest
    rcases h _ _ _ first with ⟨failed, -⟩ | sent
    · cases failed
    · exact .inr sent
  · exact (h _ _ _ first).imp_left fun ⟨failed, same⟩ => ⟨by cases failed; rfl, same⟩

theorem SendsOne.mono {x : Http.Exchange α} (h : SendsOne x P) (hP : ∀ r, P r → Q r) : SendsOne x Q := by
  intro past outcome t run
  refine (h _ _ _ run).imp_right ?_
  rintro ⟨request, reply, sent, e⟩
  exact ⟨request, reply, hP _ sent, e⟩

theorem exchange_sends (method : Method) (path : String) (body : Option (String × Json)) :
    SendsOne (exchange method path body) fun r => r.method = method ∧ Http.target? path = some r.target := by
  intro past outcome t run
  unfold exchange at run
  cases target : Http.target? path with
  | none =>
    rw [target] at run
    exact .inl (Program.runsTo_done.mp run)
  | some target =>
    rw [target] at run
    rcases Http.runsTo_bind.mp run with ⟨reply, u, first, rest⟩ | ⟨e, -, first⟩
    · obtain ⟨x, v, rfl, done⟩ := Program.runsTo_ask.mp first
      obtain ⟨-, rfl⟩ := Program.runsTo_done.mp done
      have silent : t = ⟨_, x⟩ :: past := by
        split at rest
        · exact (Program.runsTo_done.mp rest).2
        · split at rest <;> exact (Program.runsTo_done.mp rest).2
      exact .inr ⟨_, x, ⟨rfl, rfl⟩, silent⟩
    · obtain ⟨x, v, rfl, done⟩ := Program.runsTo_ask.mp first
      exact nomatch (Program.runsTo_done.mp done).1

/-- An object without a name cannot be put into a path. -/
theorem sendsOne_objectPath {c : Collection α} {name : String} {f : String → Http.Exchange β}
    (h : SendsOne (f (c.path ++ "/" ++ name)) P) : SendsOne (objectPath c name >>= f) P := by
  unfold objectPath
  split
  · exact fun _ _ _ run => .inl (Program.runsTo_done.mp run)
  · exact h

/-- What is sent does not hang on whether it is a failure that an object is not there. -/
theorem SendsOne.unlessAbsent {x : Http.Exchange Unit} (h : SendsOne x P) : SendsOne (unlessAbsent x) P := by
  intro past outcome t run
  obtain ⟨o, u, first, rest⟩ := Program.runsTo_bind.mp run
  have ended : t = u ∧ (o = .error unsendable → outcome = o) := by
    split at rest
    · obtain ⟨-, rfl⟩ := Program.runsTo_done.mp rest
      exact ⟨rfl, fun e => by cases e⟩
    · obtain ⟨rfl, rfl⟩ := Program.runsTo_done.mp rest
      exact ⟨rfl, fun _ => rfl⟩
  obtain ⟨rfl, kept⟩ := ended
  exact (h _ _ _ first).imp_left fun ⟨failed, same⟩ => ⟨(kept failed).trans failed, same⟩

end

/-! ## Requests -/

section

variable {α : Type} (c : Collection α) {resource : String} {space : Option String}

theorem create_sends (hc : c.path = objectsPath resource space) (a : α) :
    SendsOne (create c a) (StandsUnder space ⟨"create", resource⟩) := by
  refine ((exchange_sends _ _ _).bind fun _ => silent_readAs _ _).mono ?_
  rintro r ⟨method, target⟩
  exact ⟨by rw [method]; rfl, "?", by rw [← hc, target]⟩

/-- A request about one object stands under the grant for its method. -/
theorem standsUnder_object (hc : c.path = objectsPath resource space) {name verb : String} {method : Method}
    (hv : method.verb? = some verb) {r : Http.Request}
    (h : r.method = method ∧ Http.target? (c.path ++ "/" ++ name ++ "?") = some r.target) :
    StandsUnder space ⟨verb, resource⟩ r :=
  ⟨by rw [h.1, hv], "/" ++ name ++ "?", by rw [← h.2, ← hc]; simp only [String.append_assoc]⟩

theorem replace_sends (hc : c.path = objectsPath resource space) (name : String) (a : α) :
    SendsOne (replace c name a) (StandsUnder space ⟨"update", resource⟩) :=
  (sendsOne_objectPath ((exchange_sends _ _ _).bind fun _ => silent_readAs _ _)).mono
    fun _ => standsUnder_object c hc rfl

theorem change_sends (hc : c.path = objectsPath resource space) (name : String) (difference : Json) :
    SendsOne (change c name difference) (StandsUnder space ⟨"patch", resource⟩) :=
  (sendsOne_objectPath ((exchange_sends _ _ _).bind fun _ => (silent_readAs _ _).bind fun _ => silent_pure)).mono
    fun _ => standsUnder_object c hc rfl

theorem delete_sends (hc : c.path = objectsPath resource space) (name : String) :
    SendsOne (delete c name) (StandsUnder space ⟨"delete", resource⟩) := by
  refine (sendsOne_objectPath ((exchange_sends _ _ _).bind fun body => ?_)).mono
    fun _ => standsUnder_object c hc rfl
  refine (silent_readAs _ _).bind fun j => ?_
  split
  · exact (silent_readAs _ _).bind fun _ => silent_pure
  · exact (silent_readAs _ _).bind fun _ => silent_pure

end

/-- What was sent stands under the first of some grants in turn, and under all of them if it ended well. -/
def StandsInTurn (space : Option String) (grants : List Grant) (ended : Bool) (t : Sent) : Prop :=
  ∃ used, used <+: grants ∧ List.Forall₂ (StandsUnder space) used (t.reverse.map (·.request)) ∧
    (ended = true → used = grants)

section

variable {α : Type} {space : Option String} {g h : Grant} {outcome : Except Failure α} {t : Sent}

theorem SendsOne.inTurn {x : Http.Exchange α} (sends : SendsOne x (StandsUnder space g))
    (run : x.run.RunsTo Program.anyAnswers [] outcome t) : StandsInTurn space [g] outcome.isOk t := by
  rcases sends _ _ _ run with ⟨rfl, rfl⟩ | ⟨request, reply, stands, rfl⟩
  · exact ⟨[], List.nil_prefix, .nil, fun e => by cases e⟩
  · exact ⟨[g], List.prefix_rfl, .cons stands .nil, fun _ => rfl⟩

/-- Of two exchanges the second is made only if the first ended well. -/
theorem SendsOne.thenOne {x y : Http.Exchange Unit} {outcome : Except Failure Unit}
    (first : SendsOne x (StandsUnder space g)) (second : SendsOne y (StandsUnder space h))
    (run : (x >>= fun _ => y).run.RunsTo Program.anyAnswers [] outcome t) :
    StandsInTurn space [g, h] outcome.isOk t := by
  rcases Http.runsTo_bind.mp run with ⟨_, u, began, rest⟩ | ⟨e, rfl, failed⟩
  · rcases first _ _ _ began with ⟨failed, -⟩ | ⟨request, reply, stands, rfl⟩
    · cases failed
    rcases second _ _ _ rest with ⟨rfl, rfl⟩ | ⟨request', reply', stands', rfl⟩
    · exact ⟨[g], by simp, .cons stands .nil, fun e => by cases e⟩
    · exact ⟨[g, h], List.prefix_rfl, .cons stands (.cons stands' .nil), fun _ => rfl⟩
  · rcases first _ _ _ failed with ⟨-, rfl⟩ | ⟨request, reply, stands, rfl⟩
    · exact ⟨[], List.nil_prefix, .nil, fun e => by cases e⟩
    · exact ⟨[g], by simp, .cons stands .nil, fun e => by cases e⟩

end

/-- What is sent for a request that changes objects stands under its grants in turn. -/
theorem perform_stands {r : Request} (hr : r.mutates = true) {outcome : Except Failure r.Answer} {t : Sent}
    (run : (perform r).run.RunsTo Program.anyAnswers [] outcome t) :
    StandsInTurn r.space? r.grants outcome.isOk t := by
  cases r with
  | setUnschedulable name b => exact (change_sends .nodes rfl _ _).inTurn run
  | deletePod space name => exact (delete_sends (.pods space) rfl _).unlessAbsent.inTurn run
  | createVolume v => exact (create_sends .volumes rfl _).inTurn run
  | replaceVolume v =>
    unfold perform at run
    cases named : v.metadata.name with
    | none =>
      simp only [named] at run
      obtain ⟨rfl, rfl⟩ := Program.runsTo_done.mp run
      exact ⟨[], List.nil_prefix, .nil, fun e => by cases e⟩
    | some name =>
      simp only [named] at run
      exact (replace_sends .volumes rfl _ _).inTurn run
  | deleteVolume name =>
    exact (delete_sends .volumes rfl _).unlessAbsent.thenOne (change_sends .volumes rfl _ _).unlessAbsent run
  | createClaim space claim => exact (create_sends (.claims space) rfl _).inTurn run
  | deleteClaim space name =>
    exact (delete_sends (.claims space) rfl _).unlessAbsent.thenOne
      (change_sends (.claims space) rfl _ _).unlessAbsent run
  | _ => cases hr

end Orchestrator

end ClusterVolumes
