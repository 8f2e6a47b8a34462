import ClusterVolumes.Proofs.Maintenance.Caution
import ClusterVolumes.Proofs.Maintenance.Reclaim
import ClusterVolumes.Proofs.Orchestrator.Grants

/-!
# The grants that workflows need

Before any work `checkGrants` asks for the `requiredGrants`. A workflow needs others too: to replace the record of a
volume it must be allowed to update volumes, and to delete a volume or a claim for good it must be allowed to patch it.
So the check is enough for a run in which nothing of that kind is done, and for no other (`Needs.covered`), and every
run that ends well does it, if there is something to do at all (`Needs.idle`).

A service is followed by the grants that it needs at most (`Service.NeedsOnly`), and by the calls that it makes in every
run that ends well (`Service.Makes`). An orchestrator that goes by what is granted (`Exchange.goesBy`) refuses no call
of a run if the `Workflow.unchecked` grants are there besides the required ones.
-/

namespace ClusterVolumes

open Orchestrator
open Service

/-- The grants that a call needs. -/
def Call.grants : Call → List Grant
  | .orchestrator r => r.grants
  | _ => []

/-- Does the call replace the record of a volume, or delete a volume or a claim? -/
def Call.rewrites : Call → Bool
  | .orchestrator (.replaceVolume _) | .orchestrator (.deleteVolume _) | .orchestrator (.deleteClaim ..) => true
  | _ => false

theorem Call.rewrites_of_deletesClaim {c : Call} (h : c.deletesClaim = true) : c.rewrites = true := by
  cases c with
  | orchestrator r => cases r <;> first | rfl | cases h
  | _ => cases h

/-- The required grants are enough for a call if it rewrites nothing. -/
theorem Call.grants_subset_required {c : Call} : c.grants ⊆ Maintenance.requiredGrants ↔ c.rewrites = false := by
  cases c with
  | orchestrator r => cases r <;> simp [grants, Request.grants, rewrites, Maintenance.requiredGrants]
  | _ => simp [grants, rewrites]

namespace Service

variable {α β : Type}

/-! ## The grants that a service needs at most -/

/-- Whatever it is answered, the service needs some grants only. -/
abbrev NeedsOnly (service : Service α) (grants : List Grant) : Prop :=
  service.Asks fun call => call.grants ⊆ grants

theorem NeedsOnly.widen {service : Service α} {grants more : List Grant} (h : service.NeedsOnly grants)
    (hg : grants ⊆ more) : service.NeedsOnly more :=
  h.mono fun _ hc => List.Subset.trans hc hg

theorem orchestrator_needs (r : Request) : (orchestrator r).NeedsOnly r.grants :=
  asks_orchestrator (List.Subset.refl _)

/-- A service that asks the orchestrator nothing needs no grant. -/
theorem Within.needsNone {service : Service α} (h : service.Within []) (grants : List Grant) :
    service.NeedsOnly grants := by
  refine h.mono fun call hc => ?_
  cases call with
  | orchestrator r => cases hc
  | _ => exact List.nil_subset _

/-! ## Calls in every run that ends well -/

/-- Whatever it is answered, the service makes a call of a kind if it ends well. -/
def Makes (service : Service α) (kind : Call → Bool) : Prop :=
  ∀ past,
    Ensures anyAnswers (fun _ _ => True) service (fun _ t => ∃ e ∈ t, kind e.request = true) (fun _ _ => True) past

section

variable {kind : Call → Bool}

theorem makes_throw {f : Failure} : Makes (throw f : Service α) kind :=
  fun _ => trivial

theorem makes_orchestrator {r : Request} (h : kind (.orchestrator r) = true) : (orchestrator r).Makes kind :=
  fun _ => ask_orchestrator trivial (fun _ => ⟨_, List.mem_cons_self, h⟩) fun _ => trivial

/-- What was called stays in the history. -/
theorem ensures_made {service : Service α} {past : History} (h : ∃ e ∈ past, kind e.request = true) :
    Ensures anyAnswers (fun _ _ => True) service (fun _ t => ∃ e ∈ t, kind e.request = true) (fun _ _ => True)
      past := by
  obtain ⟨e, mem, he⟩ := h
  exact Ensures.recalling (ensures_trivial.post (fun _ _ _ grown => ⟨e, grown.subset mem, he⟩) fun _ _ _ _ => trivial)

theorem Makes.bind_left {service : Service α} {next : α → Service β} (h : service.Makes kind) :
    (service >>= next).Makes kind :=
  fun past => ensures_bind.mpr ((h past).post (fun _ _ made => ensures_made made) fun _ _ h => h)

theorem Makes.bind_right {service : Service α} {next : α → Service β} (h : ∀ a, (next a).Makes kind) :
    (service >>= next).Makes kind :=
  fun _ => ensures_bind.mpr (ensures_trivial.post (fun a t _ => h a t) fun _ _ h => h)

end

end Service

namespace Maintenance

/-- Recording a volume anew replaces its record and deletes it. -/
def recordingGrants : List Grant :=
  [⟨"update", "persistentvolumes"⟩, ⟨"patch", "persistentvolumes"⟩]

/-- Rebuilding claims replaces the records of their volumes and deletes the claims. -/
def rebuildingGrants : List Grant :=
  [⟨"update", "persistentvolumes"⟩, ⟨"patch", "persistentvolumeclaims"⟩]

/-- What a workflow must be granted although it is not checked. -/
def Workflow.unchecked : Workflow → List Grant
  | migrate .. => recordingGrants
  | rename .. | swap .. => rebuildingGrants

section

variable (m : Maintenance) {grants : List Grant}

/-! ## What the parts of the work need -/

theorem volumeRecord_needs (name : String) : (volumeRecord name).NeedsOnly grants :=
  ((orchestrator_needs (.volume name)).widen (List.nil_subset _)).bind fun _ => asks_require

section

variable (updates : ⟨"update", "persistentvolumes"⟩ ∈ grants)

include updates

theorem replaceVolume_needs (v : VolumeRecord) : (orchestrator (.replaceVolume v)).NeedsOnly grants :=
  (orchestrator_needs _).widen (List.cons_subset.mpr ⟨updates, List.nil_subset _⟩)

theorem setPolicy_needs (name policy : String) : (setPolicy name policy).NeedsOnly grants := by
  unfold setPolicy
  refine (volumeRecord_needs name).bind fun volume => ?_
  simp only
  split
  · exact asks_pure
  · exact (replaceVolume_needs updates _).bind fun _ => asks_pure

theorem retain_needs (name : String) : (retain name).NeedsOnly grants := by
  unfold retain
  refine (volumeRecord_needs name).bind fun volume => ?_
  simp only
  split
  · exact asks_pure
  · exact (setPolicy_needs updates name retained).bind fun _ => asks_pure

theorem unclaim_needs (name : String) : (unclaim name).NeedsOnly grants := by
  unfold unclaim
  refine (volumeRecord_needs name).bind fun volume => ?_
  exact (replaceVolume_needs updates _).bind fun _ => asks_pure

end

theorem boundClaim_needs (space name : String) : (m.boundClaim space name).NeedsOnly grants :=
  m.boundClaim_asks_of (List.nil_subset _) fun _ => List.nil_subset _

theorem recordAnew_needs (name : String) (handle : VolumeHandle) (zone : String) :
    (recordAnew name handle zone).NeedsOnly (requiredGrants ++ recordingGrants) := by
  unfold recordAnew
  refine (retain_needs (by decide) name).bind fun policy => ?_
  refine (volumeRecord_needs name).bind fun current => ?_
  refine ((orchestrator_needs (.deleteVolume name)).widen ?_).bind fun _ => ?_
  · simp [Request.grants, requiredGrants, recordingGrants]
  · refine ((orchestrator_needs (.createVolume _)).widen ?_).bind fun _ => asks_pure
    simp [Request.grants, requiredGrants]

theorem relocate_needs (bound : BoundClaim) (target : String) (timeout : Nat) :
    (m.relocate bound target timeout).NeedsOnly (requiredGrants ++ recordingGrants) := by
  unfold relocate
  refine ((m.awaitDetached_asks bound.handle).needsNone _).bind fun _ => ?_
  refine ((m.copyDisk_asks bound.handle target timeout).needsNone _).bind fun _ => ?_
  refine (recordAnew_needs _ _ _).bind fun _ => ?_
  exact ((cluster_within _ _ _).needsNone _).rewording

theorem awaitBound_needs (space name : String) : (m.awaitBound space name).NeedsOnly grants := by
  refine Asks.pollUntil ?_ (List.nil_subset _) (List.nil_subset _)
  refine ((orchestrator_needs (.claim space name)).widen (List.nil_subset _)).bind fun found => ?_
  split
  · exact asks_pure
  · exact asks_pure

theorem rebind_needs (space : String) (plan : List Rebinding) :
    (m.rebind space plan).NeedsOnly (requiredGrants ++ rebuildingGrants) := by
  have updates : (⟨"update", "persistentvolumes"⟩ : Grant) ∈ requiredGrants ++ rebuildingGrants := by decide
  unfold rebind
  refine (Asks.mapM fun r _ => retain_needs updates r.volume.name).bind fun policies => ?_
  refine (Asks.forM fun r _ => (orchestrator_needs (.deleteClaim space r.claim.name)).widen ?_).bind fun _ => ?_
  · simp [Request.grants, requiredGrants, rebuildingGrants]
  refine (Asks.forM fun r _ => unclaim_needs updates r.volume.name).bind fun _ => ?_
  refine (Asks.forM fun r _ => ((orchestrator_needs (.createClaim space _)).widen ?_).bind fun _ => asks_pure).bind
    fun _ => ?_
  · simp [Request.grants, requiredGrants]
  refine (Asks.forM fun r _ => m.awaitBound_needs space r.name).bind fun _ => ?_
  exact Asks.forM fun r _ => setPolicy_needs updates r.1.volume.name r.2

/-- To drain claims the required grants are enough. -/
theorem drain_needs (space : String) (claims : List String) (force : Bool) :
    (m.drain space claims force).NeedsOnly requiredGrants := by
  have list : (Call.orchestrator (.pods space)).grants ⊆ requiredGrants := List.nil_subset _
  rw [drain_eq]
  refine (consumers_asks_of claims list).bind fun pods => ?_
  exact m.drainFrom_asks_of claims force list (fun _ _ => by simp [Call.grants, Request.grants, requiredGrants])
    (fun _ => List.nil_subset _) (fun _ => List.nil_subset _) (List.nil_subset _)
    fun _ _ => by simp [Call.grants, Request.grants, requiredGrants]

theorem whileDrained_needs (space : String) (claims : List String) (force : Bool) {work : Service Unit}
    {more : List Grant} (h : work.NeedsOnly (requiredGrants ++ more)) :
    (m.whileDrained space claims force work).NeedsOnly (requiredGrants ++ more) := by
  unfold whileDrained
  refine ((m.drain_needs space claims force).widen (List.subset_append_left _ _)).bind fun held => ?_
  refine h.attempt.bind fun outcome => ?_
  refine Asks.bind (Cordon.release_asks_of (fun _ => ?_) _) fun _ => asks_ofExcept
  exact List.Subset.trans (by simp [Call.grants, Request.grants, requiredGrants]) (List.subset_append_left _ _)

/-- A workflow needs no grants but those that are checked and those that it needs besides. -/
theorem run_needs (space : String) (force : Bool) (w : Workflow) :
    (w.run m space force).NeedsOnly (requiredGrants ++ w.unchecked) := by
  cases w with
  | migrate claim target timeout =>
    refine (m.boundClaim_needs space claim).bind fun bound => ?_
    simp only
    split
    · exact asks_throw
    split
    · exact asks_pure
    split
    · exact asks_throw
    refine ((m.requirePrivileged_asks bound.handle.region).needsNone _).bind fun _ => ?_
    refine ((Fleet.isOnline_asks bound.handle.region target).needsNone _).bind fun online => ?_
    split
    · exact m.whileDrained_needs space [claim] force (m.relocate_needs bound target timeout)
    · exact asks_throw
  | rename old new =>
    show Asks (m.rename space old new force) _
    unfold rename
    split
    · exact asks_throw
    refine ((orchestrator_needs (.claim space new)).widen (List.nil_subset _)).bind fun taken => ?_
    split
    · exact asks_throw
    refine (m.boundClaim_needs space old).bind fun bound => ?_
    exact m.whileDrained_needs space [old] force (m.rebind_needs space _)
  | swap first second =>
    show Asks (m.swap space first second force) _
    unfold swap
    split
    · exact asks_throw
    refine (m.boundClaim_needs space first).bind fun a => ?_
    refine (m.boundClaim_needs space second).bind fun b => ?_
    split
    · exact asks_throw
    · exact m.whileDrained_needs space [first, second] force (m.rebind_needs space _)

/-! ## What the work rewrites -/

theorem whileDrained_makes (space : String) (claims : List String) (force : Bool) {work : Service Unit}
    {kind : Call → Bool} (h : work.Makes kind) : (m.whileDrained space claims force work).Makes kind := by
  unfold whileDrained
  refine Makes.bind_right fun held past => ensures_bind.mpr (ensures_attempt.mpr ((h past).post ?_ ?_))
  · exact fun _ _ made => ensures_made made
  -- if the work fails, so does the whole, whatever becomes of the nodes
  · exact fun f t _ =>
      ensures_bind.mpr (ensures_trivial.post (fun _ _ _ => ensures_ofExcept.mpr trivial) fun _ _ h => h)

/-- To record a volume anew it is deleted. -/
theorem relocate_rewrites (bound : BoundClaim) (target : String) (timeout : Nat) :
    (m.relocate bound target timeout).Makes Call.rewrites := by
  have recording (name : String) (handle : VolumeHandle) (zone : String) :
      (recordAnew name handle zone).Makes Call.rewrites :=
    Makes.bind_right fun _ => Makes.bind_right fun _ => (makes_orchestrator rfl).bind_left
  unfold relocate
  exact Makes.bind_right fun _ => Makes.bind_right fun _ => (recording _ _ _).bind_left

/-- To rebuild claims they are deleted. -/
theorem rebind_rewrites (space : String) (r : Rebinding) (plan : List Rebinding) :
    (m.rebind space (r :: plan)).Makes Call.rewrites := by
  unfold rebind
  refine Makes.bind_right fun policies => Makes.bind_left ?_
  rw [List.forM_eq_forM, List.forM_cons]
  exact (makes_orchestrator rfl).bind_left

/-- A workflow that ends well rewrites something, unless there was nothing to do. -/
theorem run_rewrites (space : String) (force : Bool) (w : Workflow) :
    Ensures anyAnswers (fun _ _ => True) (w.run m space force)
      (fun _ t => (∃ e ∈ t, e.request.rewrites = true) ∨ w.Idle m space t) (fun _ _ => True) [] := by
  have made (service : Service Unit) {past : History} (h : service.Makes Call.rewrites) :
      Ensures anyAnswers (fun _ _ => True) service
        (fun _ t => (∃ e ∈ t, e.request.rewrites = true) ∨ w.Idle m space t) (fun _ _ => True) past :=
    (h past).post (fun _ _ h => .inl h) fun _ _ h => h
  cases w with
  | migrate claim target timeout =>
    refine ensures_bind.mpr ((m.boundClaim_inspects space claim History.allSucceeded_nil History.inspecting_nil).post ?_
      fun _ _ _ => trivial)
    rintro bound t ⟨-, -, volumeName, told, rfl⟩
    rw [List.append_nil]
    simp only
    split
    · trivial
    rename_i apart
    split
    · rename_i same
      exact .inr ⟨bound, volumeName, told, by simpa using apart, same, rfl⟩
    split
    · trivial
    refine made _ (Makes.bind_right fun _ => Makes.bind_right fun _ => ?_)
    split
    · exact m.whileDrained_makes space [claim] force (m.relocate_rewrites bound target timeout)
    · exact makes_throw
  | rename old new =>
    refine made (m.rename space old new force) ?_
    unfold rename
    split
    · exact makes_throw
    refine Makes.bind_right fun taken => ?_
    split
    · exact makes_throw
    exact Makes.bind_right fun bound => m.whileDrained_makes space [old] force (m.rebind_rewrites space _ _)
  | swap first second =>
    refine made (m.swap space first second force) ?_
    unfold swap
    split
    · exact makes_throw
    refine Makes.bind_right fun a => Makes.bind_right fun b => ?_
    split
    · exact makes_throw
    · exact m.whileDrained_makes space [first, second] force (m.rebind_rewrites space _ _)

/-- Where there was nothing to do, nothing was rewritten. -/
theorem Workflow.Idle.unwritten {space : String} {w : Workflow} {t : History} (h : w.Idle m space t) :
    ∀ e ∈ t, e.request.rewrites = false := by
  cases w with
  | migrate claim target timeout =>
    obtain ⟨bound, volumeName, -, -, -, rfl⟩ := h
    simp [BoundClaim.found, Call.rewrites]
  | _ => exact h.elim

end

end Maintenance

/-! ## An orchestrator that goes by what is granted -/

/-- Is it the failure of a request that is not granted? -/
def Orchestrator.isForbidden {α : Type} : Except Failure α → Bool
  | .error (.orchestrator (.api _ _ reason _)) => reason = "Forbidden"
  | _ => false

namespace Exchange

/-- Was the call refused because it is not granted? -/
def refused : Program.Exchange collaborators → Bool
  | ⟨.orchestrator _, x⟩ => isForbidden x
  | _ => false

/-- Does the answer go by what is granted? A question about a grant is answered by it, and a request that needs grants
is refused only if one of them is missing; if one is, it does not succeed. -/
def goesBy (granted : Grant → Bool) : Program.Exchange collaborators → Bool
  | ⟨.orchestrator (.mayI verb resource _), .ok answer⟩ => answer = granted ⟨verb, resource⟩
  | ⟨.orchestrator r, x⟩ => if r.grants.all granted then !isForbidden x else !x.isOk
  | _ => true

theorem not_refused {granted : Grant → Bool} {e : Program.Exchange collaborators} (h : goesBy granted e = true)
    (all : ∀ g ∈ e.request.grants, granted g = true) : refused e = false := by
  obtain ⟨call, x⟩ := e
  cases call with
  | orchestrator r =>
    have all : r.grants.all granted = true := List.all_eq_true.mpr all
    cases r with
    | mayI verb resource space => cases x <;> simp_all [goesBy, refused, isForbidden]
    | _ => simpa [goesBy, refused, all] using h
  | _ => rfl

end Exchange

namespace Maintenance

/-- The runs with an orchestrator that goes by what is granted. -/
abbrev granting (granted : Grant → Bool) : Environment collaborators History :=
  Program.answersOf fun e => Exchange.goesBy granted e = true

/-- The missing grants are those that are not granted. -/
theorem missingGrants_ensures (space : String) (granted : Grant → Bool) : ∀ (grants : List Grant) (past : History),
    Ensures (granting granted) (fun _ _ => True) (missingGrants space grants)
      (fun missing _ => missing = grants.filter fun g => !granted g) (fun _ _ => True) past
  | [], _ => rfl
  | g :: rest, past => by
    refine ensures_bind.mpr (ensures_orchestrator.mpr ⟨trivial, ?_⟩)
    rintro (f | answer) t ⟨rfl, went⟩
    · trivial
    refine ensures_bind.mpr ((missingGrants_ensures space granted rest _).post ?_ fun _ _ h => h)
    rintro missing t rfl
    obtain rfl : answer = granted g := by simpa [Exchange.goesBy] using went
    cases h : granted g <;> simp [h]

/-- The check is passed only if all required grants are granted. -/
theorem granted_of_checkGrants {space : String} {granted : Grant → Bool} {t : History}
    (run : (checkGrants space).RunsTo (granting granted) [] (.ok ()) t) : ∀ g ∈ requiredGrants, granted g = true := by
  have ensured : Ensures (granting granted) (fun _ _ => True) (checkGrants space)
      (fun _ _ => ∀ g ∈ requiredGrants, granted g = true) (fun _ _ => True) [] := by
    refine ensures_bind.mpr ((missingGrants_ensures space granted requiredGrants []).post ?_ fun _ _ h => h)
    rintro missing t rfl
    split
    · rename_i none
      intro g hg
      have present := List.filter_eq_nil_iff.mp (List.isEmpty_iff.mp none) g hg
      simpa using present
    · trivial
  exact ensured.runsTo_ok run

/-- A run at a site in which all answers go by what is granted. -/
theorem runsTo_granting {α : Type} (granted : Grant → Bool) (service : Service α) (s : Site)
    (went : (Site.exchanges service s).all (Exchange.goesBy granted) = true) :
    service.RunsTo (granting granted) [] (Site.run service s).1 (Site.exchanges service s) :=
  (Program.runsTo_answersOf (List.forall_mem_nil _)).mpr ⟨Site.runsTo_exchanges service s, List.all_eq_true.mp went⟩

/-! ## What a run needs -/

end Maintenance

/-- All that was needed is checked beforehand. -/
def History.Covered (past : History) : Prop :=
  ∀ e ∈ past, e.request.grants ⊆ Maintenance.requiredGrants

namespace Maintenance

/-- What a run of a workflow needs to be granted. -/
structure Needs (m : Maintenance) (space : String) (w : Workflow) (outcome : Except Failure Unit) (t : History) :
    Prop where
  /-- It needs no grants but those that are checked and those that the workflow needs besides. -/
  known : ∀ e ∈ t, e.request.grants ⊆ requiredGrants ++ w.unchecked
  /-- Those that are checked are enough if nothing is rewritten, and only then. -/
  covered : t.Covered ↔ t.Without Call.rewrites
  /-- So if the run ends well, they were enough only if there was nothing to do. -/
  idle : outcome = .ok () → (t.Covered ↔ w.Idle m space t)

theorem covered_iff {t : History} : t.Covered ↔ t.Without Call.rewrites :=
  forall₂_congr fun _ _ => Call.grants_subset_required

theorem needs_of_run (m : Maintenance) {space : String} {force : Bool} {w : Workflow} {outcome : Except Failure Unit}
    {t : History} (run : (w.run m space force).RunsTo anyAnswers [] outcome t) : Needs m space w outcome t := by
  refine ⟨?_, covered_iff, ?_⟩
  · have kept := (m.run_needs space force w).keeps
      (K := fun t => ∀ e ∈ t, e.request.grants ⊆ requiredGrants ++ w.unchecked)
      (fun _ _ hcall hs => List.forall_mem_cons.mpr ⟨hcall, hs⟩) (List.forall_mem_nil _)
    cases outcome with
    | ok a => exact kept.runsTo_ok run
    | error f => exact kept.runsTo_error run
  · rintro rfl
    rw [covered_iff]
    constructor
    · intro unwritten
      rcases (m.run_rewrites space force w).runsTo_ok run with ⟨e, mem, rewrites⟩ | idle
      · rw [unwritten e mem] at rewrites
        cases rewrites
      · exact idle
    · exact fun idle => idle.unwritten m

/-- **The check of the grants leaves out those for rewriting.** Whatever is granted when the check is passed, and
whatever is answered, a run of a workflow stays within the checked grants if it replaces no record and deletes no volume
and no claim; if it does, it needs grants that were not checked. With `Workflow.unchecked` granted besides, no call of
it is refused. The grants of a request are those under which everything stands that is sent for it. -/
theorem preflight_covers (m : Maintenance) (space : String) (force : Bool) (w : Workflow) {granted : Grant → Bool}
    {checked : History} (passed : (checkGrants space).RunsTo (granting granted) [] (.ok ()) checked) :
    (∀ r : Request, (r.mutates = false → r.grants = []) ∧ (r.mutates = true → ∀ outcome sent,
      (perform r).run.RunsTo Program.anyAnswers [] outcome sent → StandsInTurn r.space? r.grants outcome.isOk sent)) ∧
    (∀ g ∈ requiredGrants, granted g = true) ∧
    ∀ outcome t, (w.run m space force).RunsTo (granting granted) [] outcome t →
      Needs m space w outcome t ∧
        ((∀ g ∈ w.unchecked, granted g = true) → ∀ e ∈ t, Exchange.refused e = false) := by
  have required := granted_of_checkGrants passed
  refine ⟨fun r =>
      ⟨fun reads => Request.grants_of_not_mutates reads, fun mutates _ _ run => perform_stands mutates run⟩,
    required, fun outcome t run => ?_⟩
  obtain ⟨run, went⟩ := (Program.runsTo_answersOf (List.forall_mem_nil _)).mp run
  have needs := needs_of_run m run
  refine ⟨needs, fun unchecked e mem => Exchange.not_refused (went e mem) fun g hg => ?_⟩
  rcases List.mem_append.mp (needs.known e mem hg) with hg | hg
  · exact required g hg
  · exact unchecked g hg

namespace TwoNodes

/-- A site at which volumes may not be updated, with a volume that outlives its claim. -/
def restricted : Site where
  clusters := (site false).clusters
  orchestrator :=
    { (site false).orchestrator with
      volumes := Keyed.empty.put "pvc-1" (some (volume.withPolicy retained))
      denied := [("update", "persistentvolumes")] }
  faults := [{
    concerns := fun call => match call with
      | .orchestrator (.replaceVolume _) => true
      | _ => false
    failure := .orchestrator (.api "Failure" "persistentvolumes \"pvc-1\" is forbidden" "Forbidden" 403) }]

end TwoNodes

set_option maxRecDepth 4000 in
/-- To rename a claim more is needed than is checked; with that no call is refused. -/
theorem preflight_covers_rename :
    ∃ checked t, (checkGrants "default").RunsTo (granting fun _ => true) [] (.ok ()) checked ∧
      (Workflow.run TwoNodes.driver "default" false (.rename "data" "other")).RunsTo (granting fun _ => true) []
        (.ok ()) t ∧
      ¬t.Covered ∧ ∀ e ∈ t, Exchange.refused e = false := by
  have passed := runsTo_granting (fun _ => true) (checkGrants "default") (TwoNodes.site false) (by decide +kernel)
  have renamed := runsTo_granting (fun _ => true)
    (Workflow.run TwoNodes.driver "default" false (.rename "data" "other")) (TwoNodes.site false) (by decide +kernel)
  have well : (Site.run (checkGrants "default") (TwoNodes.site false)).1 = .ok () :=
    eq_ok_of_toOption (by decide +kernel)
  have well' : (Site.run (Workflow.run TwoNodes.driver "default" false (.rename "data" "other"))
      (TwoNodes.site false)).1 = .ok () := eq_ok_of_toOption (by decide +kernel)
  rw [well] at passed
  rw [well'] at renamed
  obtain ⟨-, -, needs⟩ := preflight_covers TwoNodes.driver "default" false (.rename "data" "other") passed
  obtain ⟨needs, unrefused⟩ := needs _ _ renamed
  exact ⟨_, _, passed, renamed, fun covered => (needs.idle rfl).mp covered, unrefused fun _ _ => rfl⟩

set_option maxRecDepth 4000 in
/-- The check is passed where volumes may not be updated, and a claim that is to be renamed is deleted there before that
comes to light. -/
theorem rename_refused_halfway :
    let granted : Grant → Bool := fun g => g ≠ ⟨"update", "persistentvolumes"⟩
    let rename := Workflow.run TwoNodes.driver "default" false (.rename "data" "other")
    (∃ checked, (checkGrants "default").RunsTo (granting granted) [] (.ok ()) checked) ∧
      (∃ f t, rename.RunsTo (granting granted) [] (.error f) t ∧ ¬t.Covered ∧
        (∃ e ∈ t, e.request.deletesClaim = true ∧ Exchange.succeeded e = true) ∧
        ∃ e ∈ t, Exchange.refused e = true) ∧
      (Site.run rename TwoNodes.restricted).2.orchestrator.claims ("default", "data") = none ∧
      (Site.run rename TwoNodes.restricted).2.orchestrator.claims ("default", "other") = none := by
  intro granted rename
  have passed := runsTo_granting granted (checkGrants "default") TwoNodes.restricted (by decide +kernel)
  have well : (Site.run (checkGrants "default") TwoNodes.restricted).1 = .ok () := eq_ok_of_toOption (by decide +kernel)
  rw [well] at passed
  have failed := runsTo_granting granted rename TwoNodes.restricted (by decide +kernel)
  have ended : (Site.run rename TwoNodes.restricted).1.isOk = false := by decide +kernel
  have deleted : (Site.exchanges rename TwoNodes.restricted).any
      (fun e => e.request.deletesClaim && Exchange.succeeded e) = true := by decide +kernel
  have refused : (Site.exchanges rename TwoNodes.restricted).any Exchange.refused = true := by decide +kernel
  obtain ⟨e, mem, deletes⟩ := List.any_eq_true.mp deleted
  rw [Bool.and_eq_true] at deletes
  refine ⟨⟨_, passed⟩, ?_, Option.isNone_iff_eq_none.mp (by decide +kernel),
    Option.isNone_iff_eq_none.mp (by decide +kernel)⟩
  cases outcome : (Site.run rename TwoNodes.restricted).1 with
  | ok a =>
    rw [outcome] at ended
    cases ended
  | error f =>
    rw [outcome] at failed
    refine ⟨f, _, failed, fun covered => ?_, ⟨e, mem, deletes⟩, List.any_eq_true.mp refused⟩
    exact absurd (Call.rewrites_of_deletesClaim deletes.1) (by simp [covered_iff.mp covered e mem])

end Maintenance

end ClusterVolumes
