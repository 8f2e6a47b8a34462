import ClusterVolumes.Proofs.Maintenance.Cordons

/-!
# Evictions

A pod uses a claim if it was given a node, has not run to its end and mounts the claim (`Pod.Uses`). A drain that is
told to force such pods holds back the nodes of the driver, deletes the pods that it has found, and lists pods until
none of them uses the claims. If it ends well, its exchanges show just that (`drain_evicts`): pods may come and go
between two listings, but those that it deletes are those of the first one, and the last one shows none.

`History.podListings` and `History.deletedPods` are what the exchanges tell of pods.
-/

namespace ClusterVolumes

open Orchestrator
open Service

/-! ## Pods that use claims -/

namespace Orchestrator.Pod

/-- A pod that was given a node, has not run to its end and mounts one of some claims. -/
structure Uses (p : Pod) (claims : List String) : Prop where
  scheduled : ∃ node, p.spec.bind (·.nodeName) = some node ∧ node ≠ ""
  unfinished : ∀ phase, p.status.bind (·.phase) = some phase → phase ≠ "Succeeded" ∧ phase ≠ "Failed"
  mounts : ∃ v ∈ (p.spec.bind (·.volumes)).getD [], ∃ c, v.claim = some c ∧ c.claimName ∈ claims

variable {p : Pod} {claims : List String}

theorem isScheduled_iff : p.isScheduled = true ↔ ∃ node, p.spec.bind (·.nodeName) = some node ∧ node ≠ "" := by
  unfold isScheduled
  split
  · rename_i node h
    simp [h]
  · rename_i h
    simp [h]

theorem isFinished_eq_false_iff :
    p.isFinished = false ↔ ∀ phase, p.status.bind (·.phase) = some phase → phase ≠ "Succeeded" ∧ phase ≠ "Failed" := by
  unfold isFinished
  split
  · rename_i phase h
    simp [h]
  · rename_i h
    simp [h]

theorem mem_claimNames {name : String} : name ∈ p.claimNames ↔
    ∃ v ∈ (p.spec.bind (·.volumes)).getD [], ∃ c, v.claim = some c ∧ c.claimName = name := by
  simp only [claimNames, List.mem_filterMap, Option.map_eq_some_iff]

/-- The pods that a drain takes for consumers are those that use the claims. -/
theorem consumes_iff : p.consumes claims = true ↔ p.Uses claims := by
  have mounted : (p.claimNames.any fun c => claims.contains c) = true ↔
      ∃ v ∈ (p.spec.bind (·.volumes)).getD [], ∃ c, v.claim = some c ∧ c.claimName ∈ claims := by
    simp only [List.any_eq_true, List.contains_iff_mem, mem_claimNames]
    constructor
    · rintro ⟨_, ⟨v, hv, c, hc, rfl⟩, mem⟩
      exact ⟨v, hv, c, hc, mem⟩
    · rintro ⟨v, hv, c, hc, mem⟩
      exact ⟨c.claimName, ⟨v, hv, c, hc, rfl⟩, mem⟩
  rw [consumes, Bool.and_eq_true, Bool.and_eq_true, Bool.not_eq_true', isScheduled_iff, isFinished_eq_false_iff,
    mounted]
  exact ⟨fun ⟨⟨scheduled, unfinished⟩, mounts⟩ => ⟨scheduled, unfinished, mounts⟩,
    fun h => ⟨⟨h.scheduled, h.unfinished⟩, h.mounts⟩⟩

theorem filter_consumes_eq_nil_iff {pods : List Pod} :
    pods.filter (consumes claims) = [] ↔ ∀ p ∈ pods, ¬p.Uses claims := by
  simp only [List.filter_eq_nil_iff, consumes_iff]

end Orchestrator.Pod

/-! ## Nodes of the driver -/

section

variable {α : Type} {key : String} {l : List (String × α)}

theorem TextMap.contains_foldl_insert {m : TextMap α} :
    (l.foldl (fun m e => m.insert e.1 e.2) m).contains key = true ↔ (∃ v, (key, v) ∈ l) ∨ m.contains key = true := by
  induction l generalizing m with
  | nil => simp
  | cons e l ih =>
    obtain ⟨k, v⟩ := e
    rw [List.foldl_cons, ih]
    by_cases h : key = k
    · simp [TextMap.contains, TextMap.get?_insert, h]
    · simp [TextMap.contains, TextMap.get?_insert, h]

/-- The keys of a map that was made from a list are those of the list. -/
theorem TextMap.mem_keys_ofList : key ∈ (TextMap.ofList l).keys ↔ ∃ v, (key, v) ∈ l := by
  rw [TextMap.mem_keys_iff]
  refine TextMap.contains_foldl_insert.trans (or_iff_left ?_)
  simp [TextMap.contains, TextMap.get?, EmptyCollection.emptyCollection, TextMap.empty]

end

namespace Orchestrator.NodeDrivers

/-- The nodes of a driver are those that are recorded by name with it. -/
theorem mem_namesWith {driver node : String} {l : List NodeDrivers} : node ∈ namesWith driver l ↔
    ∃ n ∈ l, n.metadata.name = some node ∧ ∃ d ∈ n.spec.drivers, d.name = driver := by
  simp only [namesWith, TextMap.mem_keys_ofList, List.mem_map, List.mem_filterMap, List.mem_filter, List.any_eq_true,
    decide_eq_true_eq, Prod.mk.injEq]
  constructor
  · rintro ⟨_, _, ⟨n, ⟨mem, installed⟩, named⟩, rfl, -⟩
    exact ⟨n, mem, named, installed⟩
  · rintro ⟨n, mem, named, installed⟩
    exact ⟨(), node, ⟨n, ⟨mem, installed⟩, named⟩, rfl, trivial⟩

theorem nodup_namesWith (driver : String) (l : List NodeDrivers) : (namesWith driver l).Nodup :=
  TextMap.nodup_keys _

end Orchestrator.NodeDrivers

/-! ## What exchanges tell of pods -/

namespace Call

/-- The namespace and the name of the pod that a call deletes. -/
def deletedPod? : Call → Option (String × String)
  | .orchestrator (.deletePod space name) => some (space, name)
  | _ => none

/-- A call about other subjects deletes no pod. -/
theorem deletedPod?_of_isWithin {c : Call} {subjects : List Subject} (hc : c.isWithin subjects = true)
    (hp : Subject.pods ∉ subjects) : c.deletedPod? = none := by
  cases c with
  | orchestrator r =>
    cases r with
    | deletePod space name => exact absurd (List.contains_iff_mem.mp hc) hp
    | _ => rfl
  | _ => rfl

end Call

namespace Exchange

/-- A listing of the pods of a namespace with its answer. -/
abbrev listing (space : String) (x : Except Failure (List Pod)) : Program.Exchange collaborators :=
  orchestrator (.pods space) x

/-- What a listing of the pods of a namespace was answered. -/
def listing? (space : String) : Program.Exchange collaborators → Option (Except Failure (List Pod))
  | ⟨.orchestrator (.pods listed), x⟩ => if listed = space then some x else none
  | _ => none

@[simp] theorem listing?_listing (space : String) (x : Except Failure (List Pod)) :
    listing? space (listing space x) = some x :=
  if_pos rfl

end Exchange

namespace History

/-- What the listings of the pods of a namespace were answered, the latest first. -/
def podListings (space : String) (past : History) : List (Except Failure (List Pod)) :=
  past.filterMap (Exchange.listing? space)

/-- The pods that were deleted, the latest first. -/
def deletedPods (past : History) : List (String × String) :=
  past.calls.filterMap Call.deletedPod?

theorem podListings_append (space : String) (later past : History) :
    podListings space (later ++ past) = later.podListings space ++ past.podListings space :=
  List.filterMap_append

theorem podListings_cons_listing (space : String) (x : Except Failure (List Pod)) (past : History) :
    podListings space (Exchange.listing space x :: past) = x :: past.podListings space :=
  List.filterMap_cons_some (Exchange.listing?_listing space x)

/-- The first listing stays the first. -/
theorem first_listing {space : String} {x : Except Failure (List Pod)} {before t : History}
    (hb : before.podListings space = []) (h : Exchange.listing space x :: before <:+ t) :
    (t.podListings space).getLast? = some x := by
  obtain ⟨later, rfl⟩ := h
  rw [podListings_append, podListings_cons_listing, hb]
  exact List.getLast?_concat

theorem deletedPods_cons (e : Program.Exchange collaborators) (past : History) :
    deletedPods (e :: past) = (Call.deletedPod? e.request).toList ++ past.deletedPods := by
  cases h : Call.deletedPod? e.request with
  | none => exact List.filterMap_cons_none h
  | some pod => exact List.filterMap_cons_some h

end History

namespace Service

variable {α : Type} {past : History}

/-- A service that deletes no pods leaves it at those that were deleted. -/
theorem Asks.undeleting {service : Service α} (h : service.Asks fun call => call.deletedPod? = none)
    {gone : List (String × String)} (hp : past.deletedPods = gone) :
    Ensures anyAnswers (fun _ _ => True) service (fun _ t => t.deletedPods = gone) (fun _ t => t.deletedPods = gone)
      past := by
  refine h.keeps (K := fun t : History => t.deletedPods = gone) (fun t e hcall ht => ?_) hp
  rw [History.deletedPods_cons, hcall]
  exact ht

end Service

/-! ## The parts of a drain -/

/-- If holding nodes back tells of no failure, all of them are held. -/
theorem Cordon.holdAll_nodes : ∀ (nodes : List String) (c : Cordon) (past : History), (c.nodes ++ nodes).Nodup →
    Ensures anyAnswers (fun _ _ => True) (c.holdAll nodes) (fun o _ => o.2 = .ok () → o.1.nodes = c.nodes ++ nodes)
      (fun _ _ => False) past
  | [], c, _, _ => fun _ => (List.append_nil c.nodes).symm
  | node :: rest, c, past, distinct => by
    have fresh : node ∉ c.nodes := fun mem =>
      (List.nodup_append.mp distinct).2.2 node mem node List.mem_cons_self rfl
    have split : c.nodes ++ node :: rest = (c.nodes ++ [node]) ++ rest := by simp
    unfold Cordon.holdAll
    refine ensures_bind.mpr ?_
    unfold Cordon.hold
    rw [if_neg fresh]
    refine ensures_bind.mpr (ensures_attempt.mpr (ask_orchestrator trivial (fun _ => ?_) fun f => ?_))
    · rw [split] at distinct ⊢
      exact Cordon.holdAll_nodes rest ⟨c.nodes ++ [node]⟩ _ distinct
    · intro e
      cases e

namespace Maintenance

variable (m : Maintenance) {space : String} {claims : List String} {pods : List Pod} {past : History}

/-- Clearing claims of pods is to delete these pods and then to wait as if there were none to delete. -/
theorem clear_eq (space : String) (claims : List String) (pods : List Pod) :
    m.clear space claims pods =
      (pods.forM fun p => Service.orchestrator (.deletePod space p.name)) >>= fun _ => m.clear space claims [] := rfl

/-- All of the pods are deleted, in their order. -/
theorem forM_deletePod (hp : past.deletedPods = []) :
    Ensures anyAnswers (fun _ _ => True) (pods.forM fun p => Service.orchestrator (.deletePod space p.name))
      (fun _ t => t.deletedPods = (pods.map fun p => (space, p.name)).reverse) (fun _ _ => True) past := by
  refine Ensures.forM (fun before (t : History) => t.deletedPods = (before.map fun p => (space, p.name)).reverse) pods
    (fun before p after t _ ht => ?_) (fun t ht => ht) hp
  refine ask_orchestrator trivial (fun _ => ?_) fun _ => trivial
  rw [History.deletedPods_cons, ht, List.map_append, List.reverse_append]
  rfl

/-- When pods were listed last, none of them used the claims. -/
def SeenFree (space : String) (claims : List String) (past : History) : Prop :=
  ∃ pods, (past.podListings space).head? = some (.ok pods) ∧ ∀ p ∈ pods, ¬p.Uses claims

/-- A look at the pods tells whether the claims are free. -/
theorem areFree_tells (space : String) (claims : List String) (past : History) :
    Ensures anyAnswers (fun _ _ => True) (areFree space claims)
      (fun free t => free.isSome = true → SeenFree space claims t) (fun _ _ => True) past := by
  refine ensures_bind.mpr (ensures_bind.mpr (ask_orchestrator trivial (fun pods => ?_) fun _ => trivial))
  intro free
  have unused : pods.filter (Pod.consumes claims) = [] := by
    split at free
    · exact List.isEmpty_iff.mp ‹_›
    · cases free
  refine ⟨pods, ?_, Pod.filter_consumes_eq_nil_iff.mp unused⟩
  exact congrArg List.head? (History.podListings_cons_listing space (.ok pods) past)

/-- Looks are taken until one finds the claims free, or in vain. -/
theorem poll_areFree (space : String) (claims : List String) (n : Nat) (past : History) :
    Ensures anyAnswers (fun _ _ => True) (Service.poll m.timing.pause (areFree space claims) n)
      (fun free t => free.isSome = true → SeenFree space claims t) (fun _ _ => True) past := by
  refine Ensures.poll (K := fun _ => True) (fun t _ => ?_) (fun t _ free => by cases free) n past trivial
  refine (areFree_tells space claims t).post ?_ fun _ _ h => h
  rintro (_ | a) u seen
  · exact ⟨trivial, fun _ _ _ => trivial⟩
  · exact seen

/-- Pods are waited for until a listing shows none that uses the claims. -/
theorem clear_nil_ends (space : String) (claims : List String) (past : History) :
    Ensures anyAnswers (fun _ _ => True) (m.clear space claims []) (fun _ t => SeenFree space claims t)
      (fun _ _ => True) past := by
  have settles : ∀ t, SeenFree space claims t → Ensures anyAnswers (fun _ _ => True)
      (Service.sleep m.timing.settling) (fun _ t => SeenFree space claims t) (fun _ _ => True) t :=
    fun t seen => ask_sleep trivial seen
  refine ensures_bind.mpr (ensures_pure.mpr (ensures_bind.mpr (ask_deadline trivial ?_ trivial)))
  refine ensures_bind.mpr ((m.poll_areFree space claims _ _).post ?_ fun _ _ h => h)
  rintro (_ | a) t seen
  · -- the time is over, so there is one more look, which has the last word
    refine ensures_bind.mpr ((areFree_tells space claims t).post (fun free u seen => ?_) fun _ _ h => h)
    refine ensures_bind.mpr (ensures_require.mpr ⟨fun _ found => settles u (seen ?_), fun _ => trivial⟩)
    rw [found]
    rfl
  · exact settles t (seen rfl)

/-- Clearing claims of pods deletes these pods, and ends well only if none uses the claims any more. -/
theorem clear_evicts (hp : past.deletedPods = []) :
    Ensures anyAnswers (fun _ _ => True) (m.clear space claims pods)
      (fun _ t => t.deletedPods = (pods.map fun p => (space, p.name)).reverse ∧ SeenFree space claims t)
      (fun _ _ => True) past := by
  have waits : (m.clear space claims []).Asks fun call => call.deletedPod? = none :=
    m.clear_asks_of claims rfl (List.forall_mem_nil _) (fun _ => rfl) fun _ => rfl
  rw [clear_eq]
  refine ensures_bind.mpr ((forM_deletePod hp).post (fun _ t ht => ?_) fun _ _ h => h)
  exact ((waits.undeleting ht).and (m.clear_nil_ends space claims t)).mono (fun _ _ _ => trivial) (fun _ _ h => h)
    fun _ _ _ => trivial

/-! ## Drains -/

/-- Pods were evicted: the nodes of the driver were held back and are held by the cordon, each of the pods was deleted
by one call, and when pods were listed last none used the claims. -/
structure Evicted (m : Maintenance) (space : String) (claims : List String) (pods : List Pod) (cordon : Cordon)
    (t : History) : Prop where
  deleted : t.deletedPods = (pods.map fun p => (space, p.name)).reverse
  held : cordon.Holds t
  /-- Held are the nodes with which the driver is recorded. -/
  nodes : ∃ drivers, Exchange.orchestrator .nodeDrivers (.ok drivers) ∈ t ∧ ∀ node, node ∈ cordon.nodes ↔
    ∃ n ∈ drivers, n.metadata.name = some node ∧ ∃ d ∈ n.spec.drivers, d.name = m.driver
  seen : SeenFree space claims t

/-- A drain that has found pods and is told to force them ends well only if it evicts them. -/
theorem drainFrom_evicts (hpods : pods ≠ []) (h : Cordon.Holds {} past) (hp : past.deletedPods = []) :
    Ensures anyAnswers (fun _ _ => True) (m.drainFrom space claims true pods)
      (fun held t => ∃ cordon, held = some cordon ∧ m.Evicted space claims pods cordon t) (fun _ _ => True) past := by
  have found : ¬pods.isEmpty = true := fun none => hpods (List.isEmpty_iff.mp none)
  unfold drainFrom
  rw [if_neg found, if_neg (by decide)]
  refine ensures_bind.mpr (ensures_bind.mpr (ask_orchestrator trivial (fun drivers => ?_) fun _ => trivial))
  -- the answer is known from here on, and says which nodes are to be held
  refine ensures_pure.mpr (Ensures.recalling ?_)
  have unheld : Cordon.Holds {} (Exchange.orchestrator .nodeDrivers (.ok drivers) :: past) := h.later rfl
  have marking : (Cordon.holdAll {} (NodeDrivers.namesWith m.driver drivers)).Asks fun call =>
      call.deletedPod? = none := Cordon.holdAll_asks_of (fun _ => rfl) _ _
  have marked := ((Cordon.holdAll_holds _ {} _ unheld).and
    (Cordon.holdAll_nodes _ {} _ (NodeDrivers.nodup_namesWith m.driver drivers))).and (marking.undeleting hp)
  refine ensures_bind.mpr (marked.mono (fun _ _ _ => trivial) ?_ fun _ _ _ _ => trivial)
  rintro ⟨held, cordoned⟩ u ⟨⟨hheld, hnodes⟩, hdeleted⟩
  have fails : ∀ f (t : History), Ensures anyAnswers (fun _ _ => True)
      (held.release >>= fun _ => throw f : Service (Option Cordon)) (fun _ _ => False) (fun _ _ => True) t :=
    fun f t => ensures_bind.mpr (ensures_trivial.post (fun _ _ _ => trivial) fun _ _ _ => trivial)
  refine ensures_bind.mpr (ensures_attempt.mpr (ensures_bind.mpr (ensures_ofExcept.mpr ?_)))
  cases cordoned with
  | error f => exact (fails f u).post (fun _ _ h => h.elim) fun _ _ _ _ => trivial
  | ok _ =>
    have cleared := ((m.clear_asks space claims pods).unmarked (by decide)).holds hheld
    refine (cleared.and (m.clear_evicts hdeleted)).mono (fun _ _ _ => trivial) ?_ fun f t _ =>
      (fails f t).post (fun _ _ h => h.elim) fun _ _ _ _ => trivial
    rintro _ t ⟨holds, deleted, seen⟩ begun
    have asked : Exchange.orchestrator .nodeDrivers (.ok drivers) ∈ t := begun.subset List.mem_cons_self
    refine ⟨held, rfl, deleted, holds, ⟨drivers, asked, fun node => ?_⟩, seen⟩
    rw [show held.nodes = NodeDrivers.namesWith m.driver drivers from hnodes rfl]
    exact NodeDrivers.mem_namesWith

/-- A drain has ended well after it first listed some pods. -/
structure Drained (m : Maintenance) (space : String) (claims : List String) (force : Bool) (pods : List Pod)
    (held : Option Cordon) (t : History) : Prop where
  /-- If none of the pods uses the claims there was nothing else to do. -/
  unused : (∀ p ∈ pods, ¬p.Uses claims) → held = none ∧ t = [Exchange.listing space (.ok pods)]
  /-- Otherwise it was told to force those that do, and has evicted them. -/
  evicted : (∃ p ∈ pods, p.Uses claims) → force = true ∧
    ∃ cordon, held = some cordon ∧ m.Evicted space claims (pods.filter (Pod.consumes claims)) cordon t

/-- A drain lists the pods first, and ends well only if they are none of its business or if it has evicted them. -/
theorem drain_evicts (space : String) (claims : List String) (force : Bool) :
    Ensures anyAnswers (fun _ _ => True) (m.drain space claims force)
      (fun held t => ∃ pods, (t.podListings space).getLast? = some (.ok pods) ∧
        m.Drained space claims force pods held t) (fun _ _ => True) [] := by
  rw [drain_eq]
  refine ensures_bind.mpr (ensures_bind.mpr (ask_orchestrator trivial (fun pods => ?_) fun _ => trivial))
  refine ensures_pure.mpr (Ensures.recalling ?_)
  have first : ∀ t : History, [Exchange.listing space (.ok pods)] <:+ t →
      (t.podListings space).getLast? = some (.ok pods) := fun t begun => History.first_listing rfl begun
  by_cases unused : ∀ p ∈ pods, ¬p.Uses claims
  · rw [Pod.filter_consumes_eq_nil_iff.mpr unused]
    refine ensures_pure.mpr fun begun => ⟨pods, first _ begun, fun _ => ⟨rfl, rfl⟩, ?_⟩
    rintro ⟨p, hp, uses⟩
    exact absurd uses (unused p hp)
  · have found : pods.filter (Pod.consumes claims) ≠ [] := fun none =>
      unused (Pod.filter_consumes_eq_nil_iff.mp none)
    cases force with
    | false =>
      unfold drainFrom
      rw [if_neg (by simpa using found)]
      exact fun _ => trivial
    | true =>
      refine (m.drainFrom_evicts found (Cordon.holds_nil.later rfl) rfl).post ?_ fun _ _ _ _ => trivial
      intro held t evicted begun
      exact ⟨pods, first t begun, fun none => absurd none unused, fun _ => ⟨rfl, evicted⟩⟩

end Maintenance

end ClusterVolumes
