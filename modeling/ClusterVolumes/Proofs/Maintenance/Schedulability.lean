import ClusterVolumes.Proofs.Maintenance.Cordons
import ClusterVolumes.Proofs.Maintenance.Preparation

/-!
# The marks of nodes after a workflow

A workflow gives back the nodes that it held back, which is to leave all nodes as they were. A node that an operator had
marked before is held back and given back like the others, and then its mark is gone: a node is unschedulable after a
run exactly if it was so before and was not held back (`workflows_unmark`). So nodes are as they were exactly if none of
those that were held back was marked before.

What becomes of a mark is read off the exchanges of a run: a node that was neither held back nor given back is as it was
(`isUnschedulable_of_unmarked`), and one that was given back last is unmarked (`isUnschedulable_of_returned`).
-/

namespace ClusterVolumes

open Orchestrator
open Service

namespace Site.OrchestratorState

/-- May new pods not be placed on a node? One that does not say so, or is not there, counts as a node that takes pods.
-/
def isUnschedulable (o : OrchestratorState) (name : String) : Bool :=
  ((o.nodes name).map Node.unschedulable).getD false

variable {o : OrchestratorState} {node : String}

theorem nodes_bind (o : OrchestratorState) (space name : String) : (o.bind space name).nodes = o.nodes := by
  rcases bind_cases o space name with e | ⟨c, v, record, ref, status, -, -, e⟩ <;> rw [e]

/-- A request that does not mark a node leaves its mark. -/
theorem isUnschedulable_answer {r : Request} (hr : ∀ b, r ≠ .setUnschedulable node b) (o : OrchestratorState) :
    (o.answer r).2.isUnschedulable node = o.isUnschedulable node := by
  have unmarked : r.writesVolume = false → (∀ name b, r ≠ .setUnschedulable name b) →
      (o.answer r).2.isUnschedulable node = o.isUnschedulable node := fun hw hm =>
    keeps_answer (K := fun nodes _ => ((nodes node).map Node.unschedulable).getD false = o.isUnschedulable node)
      (fun o' space name h => by rw [nodes_bind]; exact h) hw hm rfl
  cases r with
  | setUnschedulable name b =>
    have hn : node ≠ name := fun e => hr b (by rw [e])
    simp only [answer]
    split
    · rfl
    · simp only [isUnschedulable, Keyed.put_of_ne _ _ hn]
  | createVolume v => simp only [answer]; split <;> rfl
  | replaceVolume v => simp only [answer]; split <;> rfl
  | deleteVolume name => rfl
  | _ => exact unmarked rfl (fun _ _ e => by cases e)

/-- A node that is marked has the mark that was asked for. -/
theorem isUnschedulable_setUnschedulable {b : Bool} {a : Unit} (h : (o.answer (.setUnschedulable node b)).1 = .ok a) :
    (o.answer (.setUnschedulable node b)).2.isUnschedulable node = b := by
  simp only [answer] at h ⊢
  split at h
  · cases h
  · rename_i n hn
    simp [isUnschedulable, mark, Node.unschedulable]

end Site.OrchestratorState

namespace History

/-- All calls that gave a node back succeeded. -/
def GivenBackWell (past : History) : Prop :=
  ∀ e ∈ past, (Call.givenBack? e.request).isSome = true → Exchange.succeeded e = true

instance (past : History) : Decidable past.GivenBackWell :=
  inferInstanceAs (Decidable (∀ e ∈ past, (Call.givenBack? e.request).isSome = true → Exchange.succeeded e = true))

end History

/-! ## What the exchanges tell of a mark -/

namespace Site

variable {s t u : Site} {node : String}

/-- A call that does not mark a node leaves its mark. -/
theorem isUnschedulable_step {call : Call} {x : call.Answer} (hheld : call.heldBack? ≠ some node)
    (hgiven : call.givenBack? ≠ some node) (h : answer call t = (x, u)) :
    u.orchestrator.isUnschedulable node = t.orchestrator.isUnschedulable node := by
  refine answer_keeps_orchestrator (K := fun o => o.isUnschedulable node = t.orchestrator.isUnschedulable node) h rfl ?_
  rintro r rfl
  refine OrchestratorState.isUnschedulable_answer ?_ t.orchestrator
  rintro (_ | _) rfl
  · exact hgiven rfl
  · exact hheld rfl

/-- A node that was neither held back nor given back is as it was. -/
theorem isUnschedulable_of_unmarked {past : History} (H : Program.Replays (I := collaborators) answer s past t)
    (hheld : node ∉ past.heldBack) (hgiven : node ∉ past.givenBack) :
    t.orchestrator.isUnschedulable node = s.orchestrator.isUnschedulable node := by
  induction H with
  | nil => rfl
  | cons r H ih =>
    simp only [History.heldBack_cons, List.mem_append, Option.mem_toList, not_or] at hheld
    simp only [History.givenBack_cons, List.mem_append, Option.mem_toList, not_or] at hgiven
    exact (isUnschedulable_step hheld.1 hgiven.1 rfl).trans (ih hheld.2 hgiven.2)

/-- A node that was given back, and not held back again, is unmarked. -/
theorem isUnschedulable_of_returned : ∀ {later earlier : History} {t : Site},
    Program.Replays (I := collaborators) answer s (later ++ earlier) t → node ∉ later.heldBack →
      node ∈ later.givenBack → later.GivenBackWell → t.orchestrator.isUnschedulable node = false
  | [], _, _, _, _, hgiven, _ => nomatch hgiven
  | ⟨call, x⟩ :: later, earlier, t, H, hheld, hgiven, hok => by
    obtain ⟨u, H, ht⟩ := H.latest
    simp only [History.heldBack_cons, List.mem_append, Option.mem_toList, not_or] at hheld
    simp only [History.givenBack_cons, List.mem_append, Option.mem_toList] at hgiven
    by_cases hcall : call.givenBack? = some node
    · have well := hok ⟨call, x⟩ List.mem_cons_self (by simp [hcall])
      cases call with
      | orchestrator r =>
        cases r with
        | setUnschedulable name b =>
          cases b with
          | true => cases hcall
          | false =>
            obtain rfl : name = node := Option.some.inj hcall
            cases x with
            | error f => cases well
            | ok a =>
              obtain ⟨hx, hu⟩ := answer_orchestrator_ok ht
              rw [hu]
              exact OrchestratorState.isUnschedulable_setUnschedulable hx
        | _ => cases hcall
      | _ => cases hcall
    · have before := isUnschedulable_of_returned H hheld.2 (hgiven.resolve_left hcall)
        fun e he => hok e (List.mem_cons_of_mem _ he)
      exact (isUnschedulable_step hheld.1 hcall ht).trans before

end Site

namespace Maintenance

/-! ## Workflows -/

/-- A service leaves nodes unmarked that it holds back, and the others as they were. -/
structure Unmarks (service : Service Unit) (s : Site) : Prop where
  after : ∀ node, (Site.run service s).2.orchestrator.isUnschedulable node =
    (s.orchestrator.isUnschedulable node && !(Site.exchanges service s).heldBack.contains node)
  /-- All nodes are as they were exactly if none of those that were held back was marked before. -/
  restored : (∀ node, (Site.run service s).2.orchestrator.isUnschedulable node = s.orchestrator.isUnschedulable node) ↔
    ∀ node ∈ (Site.exchanges service s).heldBack, s.orchestrator.isUnschedulable node = false

/-- A service that gives back what it held back unmarks it, if it is given back well. -/
theorem unmarks_of_paired {service : Service Unit} (h : service.Paired []) {s : Site}
    (hok : (Site.exchanges service s).GivenBackWell) : Unmarks service s := by
  have replays := Site.replays_exchanges service s
  obtain ⟨returns, before, ht, given⟩ := h _ _ (Site.runsTo_exchanges service s)
  rw [ht] at replays hok
  have held : (Site.exchanges service s).heldBack = before.heldBack := by
    rw [ht, History.heldBack_append, given.heldBack, List.nil_append]
  have after : ∀ node, (Site.run service s).2.orchestrator.isUnschedulable node =
      (s.orchestrator.isUnschedulable node && !(Site.exchanges service s).heldBack.contains node) := by
    intro node
    rw [held]
    by_cases hn : node ∈ before.heldBack
    · have unmarked := Site.isUnschedulable_of_returned replays (by simp [given.heldBack])
        (given.givenBack.symm ▸ hn) fun e he => hok e (List.mem_append_left _ he)
      simp [unmarked, hn]
    · have same := Site.isUnschedulable_of_unmarked replays
        (by rwa [History.heldBack_append, given.heldBack, List.nil_append])
        (by rwa [History.givenBack_append, given.givenBack, given.last, List.append_nil])
      simp [same, hn]
  refine ⟨after, ?_⟩
  simp only [after, Bool.and_eq_left_iff_imp, Bool.not_eq_true', List.contains_eq_mem, decide_eq_false_iff_not]
  constructor
  · intro h node hn
    exact Bool.eq_false_iff.mpr fun hs => h node hs hn
  · intro h node hs hn
    exact absurd hs (by simp [h node hn])

namespace TwoNodes

/-- The region while a pod on a node with the driver uses the claim. The node may have been marked before. -/
def inUse (marked : Bool) : Site where
  clusters := (site false).clusters
  orchestrator :=
    { (site false).orchestrator with
      nodes := Keyed.empty.put "w1" (some { spec := some { unschedulable := some marked } })
      nodeDrivers := [{ metadata := { name := some "w1" }, spec := { drivers := [{ name := "d" }] } }]
      pods := [{
        metadata := { name := some "web-0", space := some "default" }
        spec := some { nodeName := some "w1", volumes := some [{ claim := some { claimName := "data" } }] } }] }

/-- A claim that a pod uses gets another name. -/
def forcedRename : Service Unit :=
  driver.rename "default" "data" "other" true

end TwoNodes

end Maintenance

end ClusterVolumes
