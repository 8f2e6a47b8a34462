import ClusterVolumes.Proofs.Maintenance.Footprints

/-!
# Cordons are given back

A drain holds nodes back, and a workflow gives them back on several paths: the drain itself if it fails half-way, and
otherwise the workflow when its work is done or has failed. `Service.Paired` says what all of them come to: a run ends
by giving back each node that it held back, none of which was given back before, and its value does not hang on what
becomes of that (`cordons_are_given_back`).

`Cordon.Holds` is the state in between. Only cordons mark nodes, so the other parts of a workflow keep it by their
footprint (`Asks.holds`). A part of a workflow is `Service.Tidy` if it gives back its nodes whenever it fails; sequences
of such parts are followed by `Tidy.bind` and `Tidy.paired_bind`, and a release ends them (`release_returned`).
-/

namespace ClusterVolumes

open Orchestrator
open Service

/-! ## Marking nodes -/

namespace Call

/-- Does the call mark a node? -/
def marksNode : Call → Bool
  | .orchestrator (.setUnschedulable ..) => true
  | _ => false

/-- The node that a call holds back. -/
def heldBack? : Call → Option String
  | .orchestrator (.setUnschedulable node true) => some node
  | _ => none

/-- The node that a call gives back. -/
def givenBack? : Call → Option String
  | .orchestrator (.setUnschedulable node false) => some node
  | _ => none

/-- The call that gives a node back. -/
def giveBack (node : String) : Call :=
  .orchestrator (.setUnschedulable node false)

/-- A call that marks no node holds none back and gives none back. -/
theorem unmarked {c : Call} (h : c.marksNode = false) : c.heldBack? = none ∧ c.givenBack? = none := by
  cases c with
  | orchestrator r => cases r <;> first | exact ⟨rfl, rfl⟩ | cases h
  | _ => exact ⟨rfl, rfl⟩

/-- A call about other subjects marks no node. -/
theorem marksNode_of_isWithin {c : Call} {subjects : List Subject} (hc : c.isWithin subjects = true)
    (hn : Subject.nodes ∉ subjects) : c.marksNode = false := by
  cases c with
  | orchestrator r =>
    cases r with
    | setUnschedulable node b => exact absurd (List.contains_iff_mem.mp hc) hn
    | _ => rfl
  | _ => rfl

end Call

namespace History

/-- The calls that were made, the latest first. -/
def calls (past : History) : List Call :=
  past.map (·.request)

/-- The nodes that were held back, the latest first. -/
def heldBack (past : History) : List String :=
  past.calls.filterMap Call.heldBack?

/-- The nodes that were given back, the latest first. -/
def givenBack (past : History) : List String :=
  past.calls.filterMap Call.givenBack?

@[simp] theorem calls_append (later past : History) : calls (later ++ past) = later.calls ++ past.calls :=
  List.map_append

@[simp] theorem calls_eq_nil {past : History} : past.calls = [] ↔ past = [] :=
  List.map_eq_nil_iff

theorem heldBack_cons (e : Program.Exchange collaborators) (past : History) :
    heldBack (e :: past) = (Call.heldBack? e.request).toList ++ past.heldBack := by
  cases h : Call.heldBack? e.request with
  | none => exact List.filterMap_cons_none h
  | some node => exact List.filterMap_cons_some h

theorem givenBack_cons (e : Program.Exchange collaborators) (past : History) :
    givenBack (e :: past) = (Call.givenBack? e.request).toList ++ past.givenBack := by
  cases h : Call.givenBack? e.request with
  | none => exact List.filterMap_cons_none h
  | some node => exact List.filterMap_cons_some h

theorem heldBack_append (later past : History) : heldBack (later ++ past) = later.heldBack ++ past.heldBack := by
  rw [heldBack, calls_append, List.filterMap_append]
  rfl

theorem givenBack_append (later past : History) : givenBack (later ++ past) = later.givenBack ++ past.givenBack := by
  rw [givenBack, calls_append, List.filterMap_append]
  rfl

end History

/-! ## Held nodes -/

/-- The nodes of a cordon are those that were held back, each once, and none was given back. -/
structure Cordon.Holds (c : Cordon) (past : History) : Prop where
  heldBack : past.heldBack = c.nodes.reverse
  once : c.nodes.Nodup
  kept : past.givenBack = []

/-- At the beginning no node is held. -/
theorem Cordon.holds_nil : Cordon.Holds {} [] :=
  ⟨rfl, List.nodup_nil, rfl⟩

/-- A call that marks no node changes nothing. -/
theorem Cordon.Holds.later {c : Cordon} {past : History} (h : c.Holds past) {e : Program.Exchange collaborators}
    (he : e.request.marksNode = false) : c.Holds (e :: past) := by
  obtain ⟨hheld, hgiven⟩ := Call.unmarked he
  refine ⟨?_, h.once, ?_⟩
  · rw [History.heldBack_cons, hheld]
    exact h.heldBack
  · rw [History.givenBack_cons, hgiven]
    exact h.kept

/-- A node that is held back in addition is held, whatever comes of the call. -/
theorem Cordon.Holds.hold {c : Cordon} {past : History} (h : c.Holds past) {node : String} (hn : node ∉ c.nodes)
    (x : Except Failure Unit) :
    Cordon.Holds ⟨c.nodes ++ [node]⟩ (Exchange.orchestrator (.setUnschedulable node true) x :: past) := by
  refine ⟨?_, ?_, h.kept⟩
  · rw [List.reverse_append, ← h.heldBack]
    rfl
  · refine List.nodup_append.mpr ⟨h.once, List.pairwise_singleton _ node, ?_⟩
    intro a ha b hb
    obtain rfl := List.mem_singleton.mp hb
    exact fun e => hn (e ▸ ha)

/-- Holding nodes back does not fail, and tells which nodes are held. -/
theorem Cordon.holdAll_holds : ∀ (nodes : List String) (c : Cordon) (past : History), c.Holds past →
    Ensures anyAnswers (fun _ _ => True) (c.holdAll nodes) (fun o t => o.1.Holds t) (fun _ _ => False) past
  | [], _, _, h => h
  | node :: rest, c, past, h => by
    unfold Cordon.holdAll
    refine ensures_bind.mpr ?_
    unfold Cordon.hold
    split
    · exact Cordon.holdAll_holds rest c past h
    · rename_i hn
      refine ensures_bind.mpr (ensures_attempt.mpr (ask_orchestrator trivial (fun _ => ?_) fun f => ?_))
      · exact Cordon.holdAll_holds rest _ _ (h.hold hn _)
      · exact h.hold hn _

namespace Service

variable {α β : Type} {past t u : History} {outcome : Except Failure α}

/-- A service that marks no node keeps what is held. -/
theorem Asks.holds {service : Service α} (h : service.Asks fun call => call.marksNode = false) {c : Cordon}
    (hc : c.Holds past) :
    Ensures anyAnswers (fun _ _ => True) service (fun _ t => c.Holds t) (fun _ t => c.Holds t) past :=
  h.keeps (fun _ _ hcall hs => hs.later hcall) hc

/-- A service about other subjects marks no node. -/
theorem Within.unmarked {service : Service α} {subjects : List Subject} (h : service.Within subjects)
    (hn : Subject.nodes ∉ subjects) : service.Asks fun call => call.marksNode = false :=
  h.mono fun _ hc => Call.marksNode_of_isWithin hc hn

/-! ## Runs that give back what they held -/

/-- A run ends with calls that give back the nodes that were held back before. -/
structure GivesBack (service : Service α) (past : History) (outcome : Except Failure α) (before returns : History) :
    Prop where
  /-- No node is held back twice. -/
  once : before.heldBack.Nodup
  /-- No node is given back earlier. -/
  last : before.givenBack = []
  /-- Each node is given back by one call, the one that was held back first before the others. -/
  each : returns.calls = before.heldBack.map Call.giveBack
  /-- The outcome is the same whatever these calls are answered. -/
  anyway : ∀ answered : History, answered.calls = returns.calls →
    service.RunsTo anyAnswers past outcome (answered ++ before)

/-- The run ended by giving back the nodes that it held back. -/
def Returned (service : Service α) (past : History) (outcome : Except Failure α) (t : History) : Prop :=
  ∃ returns before, t = returns ++ before ∧ service.GivesBack past outcome before returns

/-- Every run ends by giving back the nodes that it held back. -/
def Paired (service : Service α) (past : History) : Prop :=
  ∀ outcome t, service.RunsTo anyAnswers past outcome t → service.Returned past outcome t

/-- Every run that fails ends by giving back the nodes that it held back, and `good` holds of the others. -/
def Tidy (service : Service α) (good : α → History → Prop) (past : History) : Prop :=
  ∀ outcome t, service.RunsTo anyAnswers past outcome t →
    onOutcome good (fun f t => service.Returned past (.error f) t) outcome t

/-- The last calls give back the nodes that were held back. -/
theorem GivesBack.givenBack {service : Service α} {before returns : History}
    (h : service.GivesBack past outcome before returns) : History.givenBack returns = before.heldBack := by
  rw [History.givenBack, h.each, List.filterMap_map]
  exact List.filterMap_some

/-- The last calls hold no node back. -/
theorem GivesBack.heldBack {service : Service α} {before returns : History}
    (h : service.GivesBack past outcome before returns) : History.heldBack returns = [] := by
  rw [History.heldBack, h.each, List.filterMap_map]
  exact List.filterMap_eq_nil_iff.mpr fun _ _ => rfl

/-- Where no node is held nothing is to be given back. -/
theorem returned_of_unheld {service : Service α} (run : service.RunsTo anyAnswers past outcome t)
    (h : Cordon.Holds {} t) : service.Returned past outcome t := by
  have none : t.heldBack = [] := h.heldBack
  refine ⟨[], t, rfl, ?_, h.kept, ?_, ?_⟩
  · rw [none]
    exact List.nodup_nil
  · rw [none]
    rfl
  · intro answered e
    obtain rfl := History.calls_eq_nil.mp e
    exact run

/-- A service whose runs end like those of another one gives back what that gives back. -/
theorem Returned.carry {service : Service β} {service' : Service α} {past' : History} {outcome' : Except Failure β}
    (h : service.Returned past' outcome' t)
    (runs : ∀ u, service.RunsTo anyAnswers past' outcome' u → service'.RunsTo anyAnswers past outcome u) :
    service'.Returned past outcome t := by
  obtain ⟨returns, before, rfl, given⟩ := h
  refine ⟨returns, before, rfl, given.once, given.last, given.each, ?_⟩
  intro answered e
  apply runs
  exact given.anyway answered e

/-- A sequence ends as its second part does. -/
theorem Returned.bind {service : Service β} {next : β → Service α} {b : β}
    (run : service.RunsTo anyAnswers past (.ok b) u) (h : (next b).Returned u outcome t) :
    (service >>= next).Returned past outcome t := by
  apply h.carry
  intro v rest
  exact runsTo_bind.mpr (.inl ⟨b, u, run, rest⟩)

/-- A sequence whose first part fails ends as that. -/
theorem Returned.bind_error {service : Service β} {next : β → Service α} {f : Failure}
    (h : service.Returned past (.error f) t) : (service >>= next).Returned past (.error f) t := by
  apply h.carry
  intro v run
  exact runsTo_bind.mpr (.inr ⟨f, rfl, run⟩)

/-! ## Rules -/

theorem tidy_of_ensures {service : Service α} {good : α → History → Prop}
    (h : Ensures anyAnswers (fun _ _ => True) service good (fun _ _ => False) past) : service.Tidy good past := by
  intro outcome t run
  cases outcome with
  | ok a => exact h.runsTo_ok run
  | error f => exact (h.runsTo_error run).elim

theorem Asks.tidy {service : Service α} (h : service.Asks fun call => call.marksNode = false)
    (hp : Cordon.Holds {} past) : service.Tidy (fun _ t => Cordon.Holds {} t) past := by
  intro outcome t run
  cases outcome with
  | ok a => exact (h.holds hp).runsTo_ok run
  | error f => exact returned_of_unheld run ((h.holds hp).runsTo_error run)

theorem Asks.paired {service : Service α} (h : service.Asks fun call => call.marksNode = false)
    (hp : Cordon.Holds {} past) : service.Paired past := by
  intro outcome t run
  cases outcome with
  | ok a => exact returned_of_unheld run ((h.holds hp).runsTo_ok run)
  | error f => exact returned_of_unheld run ((h.holds hp).runsTo_error run)

theorem Tidy.bind {service : Service α} {next : α → Service β} {good : α → History → Prop}
    {good' : β → History → Prop} (h : service.Tidy good past) (hnext : ∀ a t, good a t → (next a).Tidy good' t) :
    (service >>= next).Tidy good' past := by
  intro outcome t run
  rcases runsTo_bind.mp run with ⟨a, u, first, rest⟩ | ⟨f, rfl, first⟩
  · have held : good a u := h (.ok a) u first
    have ended := hnext a u held outcome t rest
    cases outcome with
    | ok b => exact ended
    | error f => exact Returned.bind first ended
  · have ended : service.Returned past (.error f) t := h (.error f) t first
    exact ended.bind_error

theorem Tidy.paired_bind {service : Service α} {next : α → Service β} {good : α → History → Prop}
    (h : service.Tidy good past) (hnext : ∀ a t, good a t → (next a).Paired t) : (service >>= next).Paired past := by
  intro outcome t run
  rcases runsTo_bind.mp run with ⟨a, u, first, rest⟩ | ⟨f, rfl, first⟩
  · have held : good a u := h (.ok a) u first
    exact Returned.bind first (hnext a u held outcome t rest)
  · have ended : service.Returned past (.error f) t := h (.error f) t first
    exact ended.bind_error

end Service

/-! ## Releasing -/

/-- Giving a node back is one call, which does not fail whatever it is answered. -/
theorem Cordon.giveBack_runsTo {node : String} {outcome : Except Failure Unit} {past t : History} :
    RunsTo anyAnswers ((Service.orchestrator (.setUnschedulable node false)).attempt >>= fun _ => pure ()) past outcome
        t ↔
      outcome = .ok () ∧ ∃ x, t = Exchange.orchestrator (.setUnschedulable node false) x :: past := by
  rw [runsTo_bind]
  constructor
  · rintro (⟨x, v, first, rest⟩ | ⟨f, rfl, first⟩)
    · obtain ⟨rfl, rfl⟩ := runsTo_pure.mp rest
      obtain ⟨y, -, asked⟩ := runsTo_attempt.mp first
      exact ⟨rfl, y, runsTo_orchestrator.mp asked⟩
    · obtain ⟨y, e, -⟩ := runsTo_attempt.mp first
      cases e
  · rintro ⟨rfl, x, rfl⟩
    refine .inl ⟨x, _, ?_, runsTo_pure.mpr ⟨rfl, rfl⟩⟩
    exact runsTo_attempt.mpr ⟨x, rfl, runsTo_orchestrator.mpr rfl⟩

/-- A release makes the calls that give the nodes back, whatever they are answered, and does not fail. -/
theorem Cordon.release_runsTo {c : Cordon} {outcome : Except Failure Unit} {past t : History} :
    c.release.RunsTo anyAnswers past outcome t ↔ outcome = .ok () ∧ ∃ returns : History, t = returns ++ past ∧
      returns.calls = c.nodes.reverse.map Call.giveBack := by
  obtain ⟨nodes⟩ := c
  unfold Cordon.release
  -- the first node is given back first, so its call is the last one of the history
  induction nodes generalizing past with
  | nil =>
    refine runsTo_pure.trans ⟨?_, ?_⟩
    · rintro ⟨rfl, rfl⟩
      exact ⟨rfl, [], rfl, rfl⟩
    · rintro ⟨rfl, returns, rfl, e⟩
      obtain rfl := History.calls_eq_nil.mp e
      exact ⟨rfl, rfl⟩
  | cons node rest ih =>
    refine runsTo_bind.trans ⟨?_, ?_⟩
    · rintro (⟨x, u, first, others⟩ | ⟨f, rfl, first⟩)
      · obtain ⟨-, y, rfl⟩ := Cordon.giveBack_runsTo.mp first
        obtain ⟨rfl, returns, rfl, e⟩ := ih.mp others
        refine ⟨rfl, returns ++ [Exchange.orchestrator (.setUnschedulable node false) y], ?_, ?_⟩
        · rw [List.append_assoc]
          rfl
        · rw [History.calls_append, e, List.reverse_cons, List.map_append]
          rfl
      · obtain ⟨e, -⟩ := Cordon.giveBack_runsTo.mp first
        cases e
    · rintro ⟨rfl, returns, rfl, e⟩
      rw [List.reverse_cons, List.map_append] at e
      obtain ⟨later, first, rfl, hlater, hfirst⟩ := List.map_eq_append_iff.mp e
      obtain ⟨⟨r, x⟩, rfl, rfl⟩ := List.map_eq_singleton_iff.mp hfirst
      refine .inl ⟨(), _, Cordon.giveBack_runsTo.mpr ⟨rfl, x, rfl⟩, ih.mpr ⟨rfl, later, ?_, hlater⟩⟩
      rw [List.append_assoc]
      rfl

/-- Releasing a cordon gives back the nodes that it holds, and what is told afterwards is what was to be told. -/
theorem Cordon.Holds.release_returned {α : Type} {c : Cordon} {past t : History} (h : c.Holds past)
    {e outcome : Except Failure α}
    (run : RunsTo anyAnswers (c.release >>= fun _ => Service.ofExcept e) past outcome t) :
    outcome = e ∧ (c.release >>= fun _ => Service.ofExcept e).Returned past outcome t := by
  rcases runsTo_bind.mp run with ⟨_, u, first, rest⟩ | ⟨f, rfl, first⟩
  · obtain ⟨-, returns, rfl, hr⟩ := Cordon.release_runsTo.mp first
    obtain ⟨rfl, rfl⟩ := runsTo_ofExcept.mp rest
    refine ⟨rfl, returns, past, rfl, ?_, h.kept, ?_, ?_⟩
    · rw [h.heldBack]
      exact (List.reverse_perm _).nodup_iff.mpr h.once
    · rw [h.heldBack]
      exact hr
    · intro answered ha
      have again : c.release.RunsTo anyAnswers past (.ok ()) (answered ++ past) :=
        Cordon.release_runsTo.mpr ⟨rfl, answered, rfl, ha.trans hr⟩
      exact runsTo_bind.mpr (.inl ⟨(), _, again, runsTo_ofExcept.mpr ⟨rfl, rfl⟩⟩)
  · obtain ⟨e, -⟩ := Cordon.release_runsTo.mp first
    cases e

namespace Maintenance

/-! ## Draining -/

/-- A drain that fails has given back its nodes, and one that does not holds those of its cordon. -/
theorem drain_tidy (m : Maintenance) (space : String) (claims : List String) (force : Bool) {past : History}
    (h : Cordon.Holds {} past) :
    (m.drain space claims force).Tidy (fun held t => (held.getD {}).Holds t) past := by
  have looks := (consumers_asks space claims).unmarked (by decide)
  unfold drain
  refine (looks.tidy h).bind fun pods t ht => ?_
  split
  · exact tidy_of_ensures (ensures_pure.mpr ht)
  split
  · intro outcome u run
    obtain ⟨rfl, rfl⟩ := runsTo_ofExcept.mp run
    exact returned_of_unheld run ht
  have asked : m.driverNodes.Asks fun call => call.marksNode = false :=
    (asks_orchestrator (by rfl)).bind fun _ => asks_pure
  refine (asked.tidy ht).bind fun nodes u hu => ?_
  refine (tidy_of_ensures (Cordon.holdAll_holds nodes {} u hu)).bind ?_
  rintro ⟨held, cordoned⟩ v hv
  have clears : Asks (Service.ofExcept cordoned >>= fun _ => m.clear space claims pods)
      fun call => call.marksNode = false :=
    asks_ofExcept.bind fun _ => (m.clear_asks space claims pods).unmarked (by decide)
  have attempted : Tidy (Service.ofExcept cordoned >>= fun _ => m.clear space claims pods).attempt
      (fun _ w => held.Holds w) v :=
    tidy_of_ensures (ensures_attempt.mpr (clears.holds hv))
  refine attempted.bind fun cleared w hw => ?_
  cases cleared with
  | ok _ => exact tidy_of_ensures (ensures_pure.mpr hw)
  | error f =>
    intro outcome x run
    obtain ⟨rfl, given⟩ := hw.release_returned run
    exact given

/-- Work that marks no node is done with the nodes held back, and in the end they are given back. -/
theorem whileDrained_paired (m : Maintenance) (space : String) (claims : List String) (force : Bool)
    {work : Service Unit} (hwork : work.Asks fun call => call.marksNode = false) {past : History}
    (h : Cordon.Holds {} past) : (m.whileDrained space claims force work).Paired past := by
  unfold whileDrained
  refine (m.drain_tidy space claims force h).paired_bind fun held t ht => ?_
  have attempted : work.attempt.Tidy (fun _ u => (held.getD {}).Holds u) t :=
    tidy_of_ensures (ensures_attempt.mpr (hwork.holds ht))
  refine attempted.paired_bind fun worked u hu => ?_
  intro outcome v run
  exact (hu.release_returned run).2

/-! ## Workflows -/

theorem migrate_paired (m : Maintenance) (space claim target : String) (force : Bool) (timeout : Nat) :
    (m.migrate space claim target force timeout).Paired [] := by
  have found := (m.boundClaim_asks space claim).unmarked (by decide)
  unfold migrate
  refine (found.tidy Cordon.holds_nil).paired_bind fun bound t ht => ?_
  simp only
  split
  · exact asks_throw.paired ht
  split
  · exact asks_pure.paired ht
  split
  · exact asks_throw.paired ht
  have privileged := (m.requirePrivileged_asks bound.handle.region).unmarked (by decide)
  refine (privileged.tidy ht).paired_bind fun _ u hu => ?_
  have looks := (Fleet.isOnline_asks bound.handle.region target).unmarked (by decide)
  refine (looks.tidy hu).paired_bind fun isOnline v hv => ?_
  split
  · exact m.whileDrained_paired space [claim] force ((m.relocate_asks bound target timeout).unmarked (by decide)) hv
  · exact asks_throw.paired hv

theorem rename_paired (m : Maintenance) (space old new : String) (force : Bool) :
    (m.rename space old new force).Paired [] := by
  unfold rename
  split
  · exact asks_throw.paired Cordon.holds_nil
  have looks : (Service.orchestrator (.claim space new)).Asks fun call => call.marksNode = false :=
    asks_orchestrator (by rfl)
  refine (looks.tidy Cordon.holds_nil).paired_bind fun found t ht => ?_
  split
  · exact asks_throw.paired ht
  refine (((m.boundClaim_asks space old).unmarked (by decide)).tidy ht).paired_bind fun bound u hu => ?_
  exact m.whileDrained_paired space [old] force ((m.rebind_asks space _).unmarked (by decide)) hu

theorem swap_paired (m : Maintenance) (space first second : String) (force : Bool) :
    (m.swap space first second force).Paired [] := by
  unfold swap
  split
  · exact asks_throw.paired Cordon.holds_nil
  have found := fun name => (m.boundClaim_asks space name).unmarked (by decide)
  refine ((found first).tidy Cordon.holds_nil).paired_bind fun a t ht => ?_
  refine ((found second).tidy ht).paired_bind fun b u hu => ?_
  split
  · exact asks_throw.paired hu
  · exact m.whileDrained_paired space [first, second] force ((m.rebind_asks space _).unmarked (by decide)) hu

end Maintenance

end ClusterVolumes
