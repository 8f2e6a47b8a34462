import ClusterVolumes.Proofs.ServiceRuns

/-!
# Histories of services

What a history of exchanges with the collaborators tells: which calls were made, with which arguments, and whether
they succeeded. `Exchange.cluster` and `Exchange.orchestrator` are the exchanges that statements about histories name.

When every answer may come, a service is followed answer by answer: the rules `ask_cluster`, `ask_orchestrator` and
`ask_sleep` put the exchange in front of the history, once for the answers that are values and once for failures. What
the history was before is known all along (`Ensures.recalling`).
-/

namespace ClusterVolumes

/-- Does the call change what is stored on the disks of a cluster? -/
def Call.changesDisks : Call → Bool
  | .cluster _ r => r.mutates
  | _ => false

/-- Does the call delete a disk? -/
def Call.deletesDisk : Call → Bool
  | .cluster _ (.deleteDisk ..) => true
  | _ => false

/-- May the call change anything that a collaborator keeps? Locks and the clock are not kept. -/
def Call.changes : Call → Bool
  | .cluster _ r => r.mutates
  | .orchestrator r => r.mutates
  | .files | .sleep _ | .deadline _ | .acquire _ | .release _ => false
  | .mounts _ | .makeFolders _ | .removeFolder _ | .writeFile .. => true

/-- A call that deletes a disk changes disks. -/
theorem Call.changesDisks_of_deletesDisk {c : Call} (h : c.deletesDisk = true) : c.changesDisks = true := by
  cases c with
  | cluster region r => cases r <;> first | rfl | cases h
  | _ => cases h

namespace Exchange

open Program (Exchange)

/-- A request to a cluster with its answer. -/
abbrev cluster (region : String) (r : Hypervisor.Request) (x : Except Failure r.Answer) : Exchange collaborators :=
  ⟨.cluster region r, x⟩

/-- A request to the orchestrator with its answer. -/
abbrev orchestrator (r : Orchestrator.Request) (x : Except Failure r.Answer) : Exchange collaborators :=
  ⟨.orchestrator r, x⟩

/-- Did the call succeed? Sleeping, locks and looks at the files always do. -/
def succeeded : Exchange collaborators → Bool
  | ⟨.cluster _ _, x⟩ => Except.isOk x
  | ⟨.orchestrator _, x⟩ => Except.isOk x
  | ⟨.mounts _, x⟩ => Except.isOk x
  | ⟨.makeFolders _, x⟩ => Except.isOk x
  | ⟨.removeFolder _, x⟩ => Except.isOk x
  | ⟨.writeFile .., x⟩ => Except.isOk x
  | _ => true

end Exchange

namespace History

/-- Every call so far succeeded. -/
def AllSucceeded (past : History) : Prop :=
  ∀ e ∈ past, Exchange.succeeded e = true

/-- No call so far was of a kind. -/
def Without (kind : Call → Bool) (past : History) : Prop :=
  ∀ e ∈ past, kind e.request = false

theorem allSucceeded_nil : AllSucceeded [] :=
  fun _ h => nomatch h

theorem without_nil {kind : Call → Bool} : Without kind [] :=
  fun _ h => nomatch h

theorem allSucceeded_cons {e : Program.Exchange collaborators} {past : History} (he : Exchange.succeeded e = true)
    (h : past.AllSucceeded) : AllSucceeded (e :: past) :=
  List.forall_mem_cons.mpr ⟨he, h⟩

theorem without_cons {kind : Call → Bool} {e : Program.Exchange collaborators} {past : History}
    (he : kind e.request = false) (h : past.Without kind) : Without kind (e :: past) :=
  List.forall_mem_cons.mpr ⟨he, h⟩

/-- If no disk was changed, none was deleted. -/
theorem Without.deletes {past : History} (h : past.Without Call.changesDisks) : past.Without Call.deletesDisk :=
  fun e he => Bool.eq_false_iff.mpr fun hd =>
    absurd (Call.changesDisks_of_deletesDisk hd) (by simp [h e he])

/-- The calls that may have changed something, the latest first. -/
def changing (past : History) : List Call :=
  (past.map (·.request)).filter Call.changes

theorem changing_cons {e : Program.Exchange collaborators} {past : History} :
    changing (e :: past) = if e.request.changes then e.request :: changing past else changing past :=
  List.filter_cons

end History

/-! ## Calls that may get any answer -/

namespace Service

/-- Any call may get any answer. -/
abbrev anyAnswers : Environment collaborators History := Program.anyAnswers

variable {α : Type} {P : History → Call → Prop} {bad : Failure → History → Prop} {past : History}

theorem ask_cluster {region : String} {r : Hypervisor.Request} {good : r.Answer → History → Prop}
    (hP : P past (.cluster region r)) (hg : ∀ a, good a (Exchange.cluster region r (.ok a) :: past))
    (hb : ∀ f, bad f (Exchange.cluster region r (.error f) :: past)) :
    Ensures anyAnswers P (cluster region r) good bad past := by
  refine ensures_cluster.mpr ⟨hP, ?_⟩
  rintro (f | a) t rfl
  · exact hb f
  · exact hg a

theorem ask_orchestrator {r : Orchestrator.Request} {good : r.Answer → History → Prop}
    (hP : P past (.orchestrator r)) (hg : ∀ a, good a (Exchange.orchestrator r (.ok a) :: past))
    (hb : ∀ f, bad f (Exchange.orchestrator r (.error f) :: past)) :
    Ensures anyAnswers P (orchestrator r) good bad past := by
  refine ensures_orchestrator.mpr ⟨hP, ?_⟩
  rintro (f | a) t rfl
  · exact hb f
  · exact hg a

theorem ask_sleep {ms : Nat} {good : Unit → History → Prop} (hP : P past (.sleep ms))
    (hg : good () (⟨.sleep ms, ()⟩ :: past)) : Ensures anyAnswers P (sleep ms) good bad past := by
  refine ensures_sleep.mpr ⟨hP, ?_⟩
  rintro ⟨⟩ t rfl
  exact hg

theorem ask_deadline {timeout : Nat} {good : Unit → History → Prop} (hP : P past (.deadline timeout))
    (shown : good () (⟨.deadline timeout, true⟩ :: past))
    (unshown : bad .clockOverflow (⟨.deadline timeout, false⟩ :: past)) :
    Ensures anyAnswers P (deadline timeout) good bad past := by
  refine Ensures.deadline hP ?_ ?_
  · rintro t rfl
    exact shown
  · rintro t rfl
    exact unshown

/-- A history only grows, so what it began with is known at the end. -/
theorem Ensures.recalling {service : Service α} {good : α → History → Prop}
    (h : Ensures anyAnswers P service (fun a t => past <:+ t → good a t) (fun f t => past <:+ t → bad f t) past) :
    Ensures anyAnswers P service good bad past := by
  refine (h.and_invariant (K := fun t : History => past <:+ t) ?_ List.suffix_rfl).mono (fun _ _ h => h.1)
    (fun _ _ h => h.1 h.2) fun _ _ h => h.1 h.2
  rintro s call x t hs - rfl
  exact hs.trans (List.suffix_cons _ s)

end Service

end ClusterVolumes
