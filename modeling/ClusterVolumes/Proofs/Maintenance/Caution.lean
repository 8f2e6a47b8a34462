import ClusterVolumes.Proofs.Maintenance.Eviction
import ClusterVolumes.Proofs.Maintenance.Preparation
import ClusterVolumes.Proofs.Maintenance.Schedulability
import ClusterVolumes.Proofs.Site.Pods

/-!
# Nothing is changed before it may be

A workflow first looks whether it may do what it is asked for: at its claims and their volumes, and if a disk is to be
moved, at the nodes of its region. Then it lists the pods of the namespace. So far it has changed nothing, and it goes
on only if no pod uses the claims, or if it is told to force those that do. `Workflow.Passed` is what it has found when
all is well, and `Warranted` is what can be said of a run by how far it came.

A run is followed up to the listing by the calls that it makes, which only inspect; `whileDrained_warranted` is the rest
of it. At a site the pods that are listed are those that were there at the beginning (`Site.pods_of_listing`).
-/

namespace ClusterVolumes

open Orchestrator
open Service

/-! ## Inspections -/

/-- Does the call look at a claim, at a volume, or at the members of a cluster? -/
def Call.inspects : Call → Bool
  | .cluster _ .members => true
  | .orchestrator (.claim ..) | .orchestrator (.volume _) => true
  | _ => false

theorem Call.changes_of_inspects {c : Call} (h : c.inspects = true) : c.changes = false := by
  cases c with
  | cluster region r => cases r <;> first | rfl | cases h
  | orchestrator r => cases r <;> first | rfl | cases h
  | _ => cases h

/-- The call marks no node and deletes no pod. -/
def Call.EvictsNone (c : Call) : Prop :=
  c.marksNode = false ∧ c.deletedPod? = none

theorem Call.evictsNone_of_not_changes {c : Call} (h : c.changes = false) : c.EvictsNone := by
  cases c with
  | orchestrator r => cases r <;> first | exact ⟨rfl, rfl⟩ | cases h
  | _ => exact ⟨rfl, rfl⟩

theorem Exchange.listing?_of_inspects {e : Program.Exchange collaborators} (h : e.request.inspects = true)
    (space : String) : Exchange.listing? space e = none := by
  obtain ⟨c, x⟩ := e
  cases c with
  | orchestrator r => cases r <;> first | rfl | cases h
  | _ => rfl

namespace History

/-- No more was done so far than to inspect. -/
def Inspecting (past : History) : Prop :=
  ∀ e ∈ past, Call.inspects e.request = true

theorem inspecting_nil : Inspecting [] :=
  List.forall_mem_nil _

theorem inspecting_cons {e : Program.Exchange collaborators} {past : History} (he : Call.inspects e.request = true)
    (h : past.Inspecting) : Inspecting (e :: past) :=
  List.forall_mem_cons.mpr ⟨he, h⟩

variable {past : History}

theorem Inspecting.unchanged (h : past.Inspecting) : past.Without Call.changes :=
  fun e he => Call.changes_of_inspects (h e he)

theorem Inspecting.podListings (h : past.Inspecting) (space : String) : past.podListings space = [] :=
  List.filterMap_eq_nil_iff.mpr fun e he => Exchange.listing?_of_inspects (h e he) space

/-- Where nothing was changed no node was marked. -/
theorem Without.unmarked (h : past.Without Call.changes) : past.Without Call.marksNode :=
  fun e he => (Call.evictsNone_of_not_changes (h e he)).1

/-- Where nothing was changed no pod was deleted. -/
theorem Without.deletedPods (h : past.Without Call.changes) : past.deletedPods = [] := by
  refine List.filterMap_eq_nil_iff.mpr fun c hc => ?_
  obtain ⟨e, he, rfl⟩ := List.mem_map.mp hc
  exact (Call.evictsNone_of_not_changes (h e he)).2

end History

/-- A service that only inspects leaves it at that. -/
theorem Service.Asks.inspecting {α : Type} {service : Service α} (h : service.Asks fun call => call.inspects = true)
    {past : History} (hp : past.Inspecting) :
    Ensures anyAnswers (fun _ _ => True) service (fun _ t => t.Inspecting) (fun _ t => t.Inspecting) past :=
  h.keeps (fun _ _ hcall hs => History.inspecting_cons hcall hs) hp

/-- A service about other subjects evicts no pods. -/
theorem Service.Within.evictsNone {α : Type} {service : Service α} {subjects : List Subject}
    (h : service.Within subjects) (hn : Subject.nodes ∉ subjects) (hp : Subject.pods ∉ subjects) :
    service.Asks Call.EvictsNone :=
  h.mono fun _ hc => ⟨Call.marksNode_of_isWithin hc hn, Call.deletedPod?_of_isWithin hc hp⟩

/-- A service that evicts no pods marks no node and deletes no pod. -/
theorem Service.Asks.evictsNone {α : Type} {service : Service α} (h : service.Asks Call.EvictsNone) {past : History}
    (hp : past.Without Call.changes) :
    Ensures anyAnswers (fun _ _ => True) service (fun _ t => t.Without Call.marksNode ∧ t.deletedPods = [])
      (fun _ t => t.Without Call.marksNode ∧ t.deletedPods = []) past := by
  refine h.keeps (K := fun t : History => t.Without Call.marksNode ∧ t.deletedPods = []) ?_
    ⟨hp.unmarked, hp.deletedPods⟩
  rintro t e ⟨marks, deletes⟩ ⟨ht, hd⟩
  refine ⟨History.without_cons marks ht, ?_⟩
  rw [History.deletedPods_cons, deletes]
  exact hd

/-! ## Workflows -/

/-- The exchanges by which a bound claim is found, the latest first. -/
def BoundClaim.found (bound : BoundClaim) (space name volumeName : String) : History :=
  [Exchange.orchestrator (.volume volumeName) (.ok (some bound.volume)),
    Exchange.orchestrator (.claim space name) (.ok (some bound.claim))]

namespace Maintenance

/-- What can be asked for in a namespace. -/
inductive Workflow
  | migrate (claim target : String) (timeout : Nat)
  | rename (old new : String)
  | swap (first second : String)
  deriving DecidableEq, Repr

/-- The failure of a workflow whose claims are in use. -/
def claimsInUse (claims : List String) (pods : List Pod) : Failure :=
  .conflict (Text.quotedList claims ++ " in use by pods " ++
    Text.quotedList ((pods.filter (Pod.consumes claims)).map (·.name)) ++ ", use --force to evict them")

namespace Workflow

/-- Do what is asked for. -/
def run (m : Maintenance) (space : String) (force : Bool) : Workflow → Service Unit
  | migrate claim target timeout => m.migrate space claim target force timeout
  | rename old new => m.rename space old new force
  | swap first second => m.swap space first second force

/-- The claims that no pod may use meanwhile. -/
def claims : Workflow → List String
  | migrate claim .. => [claim]
  | rename old _ => [old]
  | swap first second => [first, second]

/-- Everything that is to be checked was found to be well, and nothing else was done. -/
inductive Passed (m : Maintenance) (space : String) : Workflow → History → Prop
  /-- The claim has a volume of the driver, with a disk that is on another node than the target and of which the storage
  is known, in a region that the driver may change as a user and in which the target is online. -/
  | migrate {claim target : String} {timeout : Nat} {bound : BoundClaim} {volumeName : String}
      {members : List Hypervisor.ClusterMember} :
      bound.Told m.driver volumeName → bound.handle.isShared = false → bound.handle.zone ≠ target →
      bound.handle.storage ≠ "" → m.fleet.isPrivileged bound.handle.region = .ok true →
      (∃ n ∈ members, n.kind = "node" ∧ n.online = true ∧ n.name = target) →
      Passed m space (migrate claim target timeout)
        (Exchange.cluster bound.handle.region .members (.ok members) :: bound.found space claim volumeName)
  /-- The new name is another one that no claim has, and the claim has a volume of the driver. -/
  | rename {old new : String} {bound : BoundClaim} {volumeName : String} :
      old ≠ new → bound.Told m.driver volumeName →
      Passed m space (rename old new)
        (bound.found space old volumeName ++ [Exchange.orchestrator (.claim space new) (.ok none)])
  /-- The claims are two, and have two volumes of the driver. -/
  | swap {first second : String} {a b : BoundClaim} {aVolume bVolume : String} :
      first ≠ second → a.Told m.driver aVolume → b.Told m.driver bVolume → a.volume.name ≠ b.volume.name →
      Passed m space (swap first second) (b.found space second bVolume ++ a.found space first aVolume)

/-- There was nothing to do, because the volume that is to be moved is on the target already. -/
def Idle (m : Maintenance) (space : String) : Workflow → History → Prop
  | migrate claim target _, t => ∃ (bound : BoundClaim) (volumeName : String), bound.Told m.driver volumeName ∧
      bound.handle.isShared = false ∧ bound.handle.zone = target ∧ t = bound.found space claim volumeName
  | _, _ => False

theorem Passed.inspecting {m : Maintenance} {space : String} {w : Workflow} {past : History}
    (h : w.Passed m space past) : past.Inspecting := by
  cases h <;> simp [History.Inspecting, BoundClaim.found, Call.inspects]

end Workflow

/-- What a run of a workflow may have done, by how far it came. -/
structure Warranted (m : Maintenance) (space : String) (force : Bool) (w : Workflow) (outcome : Except Failure Unit)
    (t : History) : Prop where
  /-- If the checks were not passed, nothing was changed. -/
  unchecked : (∀ begun, begun <:+ t → ¬w.Passed m space begun) →
    t.Without Call.changes ∧ (outcome = .ok () → w.Idle m space t)
  /-- Pods are listed when the checks are passed. -/
  checked : ∀ x, (t.podListings space).getLast? = some x →
    ∃ begun, w.Passed m space begun ∧ Exchange.listing space x :: begun <:+ t
  /-- If pods were not listed, nothing was changed. -/
  unlisted : (t.podListings space).getLast? = none →
    t.Without Call.changes ∧ (outcome = .ok () → w.Idle m space t)
  /-- If the listing failed, nothing was changed. -/
  unheard : ∀ f, (t.podListings space).getLast? = some (.error f) → outcome = .error f ∧ t.Without Call.changes
  /-- If the claims are in use and that is not to be forced, nothing was changed. -/
  refused : ∀ pods, (t.podListings space).getLast? = some (.ok pods) → (∃ p ∈ pods, p.Uses w.claims) → force = false →
    outcome = .error (claimsInUse w.claims pods) ∧ t.Without Call.changes
  /-- If the claims are not in use, no node was marked and no pod deleted. -/
  unused : ∀ pods, (t.podListings space).getLast? = some (.ok pods) → (∀ p ∈ pods, ¬p.Uses w.claims) →
    t.Without Call.marksNode ∧ t.deletedPods = []

section

variable {m : Maintenance} {space : String} {force : Bool} {w : Workflow} {outcome : Except Failure Unit}
  {before t : History}

/-- A run that ended in its checks. -/
theorem Warranted.of_inspecting (h : t.Inspecting) (idle : outcome = .ok () → w.Idle m space t) :
    m.Warranted space force w outcome t := by
  have none : (t.podListings space).getLast? = none := by rw [h.podListings space, List.getLast?_nil]
  refine ⟨fun _ => ⟨h.unchanged, idle⟩, fun x e => ?_, fun _ => ⟨h.unchanged, idle⟩, fun f e => ?_, fun pods e => ?_,
    fun pods e => ?_⟩
  all_goals
    rw [none] at e
    cases e

/-- A run that failed in its checks. -/
theorem Warranted.of_failed (f : Failure) (h : t.Inspecting) : m.Warranted space force w (.error f) t :=
  .of_inspecting h fun e => by cases e

/-- A run that passed its checks, by what the listing was answered. -/
theorem Warranted.of_passed {x : Except Failure (List Pod)} (h : w.Passed m space before)
    (listed : Exchange.listing space x :: before <:+ t)
    (unheard : ∀ f, x = .error f → outcome = .error f ∧ t.Without Call.changes)
    (refused : ∀ pods, x = .ok pods → (∃ p ∈ pods, p.Uses w.claims) → force = false →
      outcome = .error (claimsInUse w.claims pods) ∧ t.Without Call.changes)
    (unused : ∀ pods, x = .ok pods → (∀ p ∈ pods, ¬p.Uses w.claims) →
      t.Without Call.marksNode ∧ t.deletedPods = []) : m.Warranted space force w outcome t := by
  have first : (t.podListings space).getLast? = some x := History.first_listing (h.inspecting.podListings space) listed
  refine ⟨fun none => ?_, fun y e => ?_, fun e => ?_, fun f e => ?_, fun pods e => ?_, fun pods e => ?_⟩
  · exact absurd h (none before ((List.suffix_cons _ _).trans listed))
  all_goals rw [first] at e
  · obtain rfl := Option.some.inj e
    exact ⟨before, h, listed⟩
  · cases e
  · exact unheard f (Option.some.inj e)
  · exact refused pods (Option.some.inj e)
  · exact unused pods (Option.some.inj e)

/-- A run that ended because pods could not be listed. -/
theorem Warranted.of_unheard (h : w.Passed m space before) (f : Failure) :
    m.Warranted space force w (.error f) (Exchange.listing space (.error f) :: before) := by
  refine .of_passed h List.suffix_rfl ?_ (fun _ e => by cases e) fun _ e => by cases e
  rintro _ ⟨⟩
  exact ⟨rfl, History.without_cons rfl h.inspecting.unchanged⟩

variable {pods : List Pod}

/-- A run that ended because claims are in use. -/
theorem Warranted.of_refused (h : w.Passed m space before) (used : ∃ p ∈ pods, p.Uses w.claims) :
    m.Warranted space force w (.error (claimsInUse w.claims pods)) (Exchange.listing space (.ok pods) :: before) := by
  obtain ⟨p, hp, uses⟩ := used
  refine .of_passed h List.suffix_rfl (fun _ e => by cases e) ?_ ?_
  · rintro _ ⟨⟩ - -
    exact ⟨rfl, History.without_cons rfl h.inspecting.unchanged⟩
  · rintro _ ⟨⟩ unused
    exact absurd uses (unused p hp)

/-- A run that went on because no claim is in use. -/
theorem Warranted.of_unused (h : w.Passed m space before) (unused : ∀ p ∈ pods, ¬p.Uses w.claims)
    (listed : Exchange.listing space (.ok pods) :: before <:+ t)
    (kept : t.Without Call.marksNode ∧ t.deletedPods = []) : m.Warranted space force w outcome t := by
  refine .of_passed h listed (fun _ e => by cases e) ?_ fun _ _ _ => kept
  rintro _ ⟨⟩ ⟨p, hp, uses⟩
  exact absurd uses (unused p hp)

/-- A run that went on because it was told to. -/
theorem Warranted.of_forced (h : w.Passed m space before) (used : ∃ p ∈ pods, p.Uses w.claims)
    (listed : Exchange.listing space (.ok pods) :: before <:+ t) : m.Warranted space true w outcome t := by
  obtain ⟨p, hp, uses⟩ := used
  refine .of_passed h listed (fun _ e => by cases e) (fun _ _ _ e => by cases e) ?_
  rintro _ ⟨⟩ unused
  exact absurd uses (unused p hp)

end

/-! ## What is done when the checks are passed -/

section

variable {m : Maintenance} {space : String} {force : Bool} {w : Workflow} {before : History}

/-- Where nothing was to be drained, no more calls are made than those of the work. -/
theorem undrained_asks (m : Maintenance) (space : String) (claims : List String) (force : Bool) {work : Service Unit}
    {kind : Call → Prop} (hwork : work.Asks kind) :
    Asks (do
      let held ← m.drainFrom space claims force []
      let outcome ← work.attempt
      (held.getD {}).release
      Service.ofExcept outcome) kind :=
  hwork.attempt.bind fun _ => asks_pure.bind fun _ => asks_ofExcept

/-- When the checks are passed, work that itself evicts no pods may be done while the claims are drained. -/
theorem whileDrained_warranted (h : w.Passed m space before) {work : Service Unit} (hwork : work.Asks Call.EvictsNone) :
    Ensures anyAnswers (fun _ _ => True) (m.whileDrained space w.claims force work)
      (fun a t => m.Warranted space force w (.ok a) t) (fun f t => m.Warranted space force w (.error f) t) before := by
  unfold whileDrained
  rw [drain_eq]
  refine ensures_bind.mpr (ensures_bind.mpr (ensures_bind.mpr (ask_orchestrator trivial (fun pods => ?_) fun f =>
    .of_unheard h f)))
  -- whatever is done from here on, the first listing is known at the end
  refine ensures_pure.mpr (ensures_bind.mp (Ensures.recalling ?_))
  by_cases unused : ∀ p ∈ pods, ¬p.Uses w.claims
  · have listed := History.without_cons (e := Exchange.listing space (.ok pods)) rfl h.inspecting.unchanged
    rw [Pod.filter_consumes_eq_nil_iff.mpr unused]
    exact ((m.undrained_asks space w.claims force hwork).evictsNone listed).post
      (fun _ _ kept listed => .of_unused h unused listed kept) fun _ _ kept listed => .of_unused h unused listed kept
  · have found : pods.filter (Pod.consumes w.claims) ≠ [] := fun none =>
      unused (Pod.filter_consumes_eq_nil_iff.mp none)
    have used : ∃ p ∈ pods, p.Uses w.claims := by simpa using unused
    cases force with
    | false =>
      unfold drainFrom
      rw [if_neg (by simpa using found)]
      exact fun _ => .of_refused h used
    | true =>
      exact ensures_trivial.post (fun _ _ _ listed => .of_forced h used listed) fun _ _ _ listed =>
        .of_forced h used listed

end

/-! ## The checks of the workflows -/

/-- A bound claim is found by inspections, and so is that there is none. -/
theorem boundClaim_inspects (m : Maintenance) (space name : String) {past : History} (h : past.AllSucceeded)
    (hi : past.Inspecting) :
    Ensures anyAnswers (fun _ _ => True) (m.boundClaim space name)
      (fun bound t => t.AllSucceeded ∧ t.Inspecting ∧ ∃ volumeName, bound.Told m.driver volumeName ∧
        t = bound.found space name volumeName ++ past) (fun _ t => t.Inspecting) past := by
  have asks : (m.boundClaim space name).Asks fun call => call.inspects = true :=
    m.boundClaim_asks_of rfl fun _ => rfl
  refine ((m.boundClaim_ensures space name h).and (asks.inspecting hi)).mono (fun _ _ _ => trivial) ?_ fun _ _ h => h.2
  rintro bound t ⟨⟨succeeded, volumeName, told, rfl⟩, inspecting⟩
  exact ⟨succeeded, inspecting, volumeName, told, rfl⟩

/-- Whether the driver may change a region as a user is known without a call. -/
theorem ensures_requirePrivileged {m : Maintenance} {region : String} {good : Unit → History → Prop}
    {bad : Failure → History → Prop} {past : History}
    (privileged : m.fleet.isPrivileged region = .ok true → good () past) (refused : ∀ f, bad f past) :
    Ensures anyAnswers (fun _ _ => True) (m.requirePrivileged region) good bad past := by
  unfold requirePrivileged
  refine ensures_bind.mpr (ensures_ofExcept.mpr ?_)
  cases known : m.fleet.isPrivileged region with
  | error f => exact refused f
  | ok p =>
    cases p with
    | false => exact refused _
    | true => exact privileged known

theorem migrate_warranted (m : Maintenance) (space claim target : String) (timeout : Nat) (force : Bool) :
    Ensures anyAnswers (fun _ _ => True) (m.migrate space claim target force timeout)
      (fun a t => m.Warranted space force (.migrate claim target timeout) (.ok a) t)
      (fun f t => m.Warranted space force (.migrate claim target timeout) (.error f) t) [] := by
  unfold migrate
  refine ensures_bind.mpr ((m.boundClaim_inspects space claim History.allSucceeded_nil History.inspecting_nil).post ?_
    fun f _ h => .of_failed f h)
  rintro bound t ⟨-, inspecting, volumeName, told, rfl⟩
  rw [List.append_nil] at inspecting ⊢
  simp only
  split
  · exact .of_failed _ inspecting
  rename_i apart
  split
  · rename_i same
    exact .of_inspecting inspecting fun _ => ⟨bound, volumeName, told, by simpa using apart, same, rfl⟩
  rename_i elsewhere
  split
  · exact .of_failed _ inspecting
  rename_i stored
  refine ensures_bind.mpr (ensures_requirePrivileged (fun privileged => ?_) fun f => .of_failed f inspecting)
  refine ensures_bind.mpr (ensures_bind.mpr (ask_cluster trivial (fun members => ensures_pure.mpr ?_) fun f =>
    .of_failed f (History.inspecting_cons rfl inspecting)))
  split
  · rename_i online
    have there : ∃ n ∈ members, n.kind = "node" ∧ n.online = true ∧ n.name = target := by
      simpa [Fleet.isOnlineNode, and_assoc] using online
    have passed : Workflow.Passed m space (.migrate claim target timeout) _ :=
      .migrate told (by simpa using apart) elsewhere (by simpa using stored) privileged there
    exact whileDrained_warranted passed ((m.relocate_asks bound target timeout).evictsNone (by decide) (by decide))
  · exact .of_failed _ (History.inspecting_cons rfl inspecting)

theorem rename_warranted (m : Maintenance) (space old new : String) (force : Bool) :
    Ensures anyAnswers (fun _ _ => True) (m.rename space old new force)
      (fun a t => m.Warranted space force (.rename old new) (.ok a) t)
      (fun f t => m.Warranted space force (.rename old new) (.error f) t) [] := by
  have begun := History.inspecting_nil
  unfold rename
  split
  · exact .of_failed _ begun
  rename_i distinct
  refine ensures_bind.mpr (ask_orchestrator trivial (fun taken => ?_) fun f => ?_)
  · have looked : History.Inspecting [Exchange.orchestrator (.claim space new) (.ok taken)] :=
      History.inspecting_cons rfl begun
    split
    · exact .of_failed _ looked
    rename_i free
    obtain rfl : taken = none := by simpa using free
    refine ensures_bind.mpr ((m.boundClaim_inspects space old
      (History.allSucceeded_cons rfl History.allSucceeded_nil) looked).post ?_ fun f _ h => .of_failed f h)
    rintro bound t ⟨-, -, volumeName, told, rfl⟩
    exact whileDrained_warranted (.rename distinct told) ((m.rebind_asks space _).evictsNone (by decide) (by decide))
  · exact .of_failed _ (History.inspecting_cons rfl begun)

theorem swap_warranted (m : Maintenance) (space first second : String) (force : Bool) :
    Ensures anyAnswers (fun _ _ => True) (m.swap space first second force)
      (fun a t => m.Warranted space force (.swap first second) (.ok a) t)
      (fun f t => m.Warranted space force (.swap first second) (.error f) t) [] := by
  have begun := History.inspecting_nil
  unfold swap
  split
  · exact .of_failed _ begun
  rename_i distinct
  refine ensures_bind.mpr ((m.boundClaim_inspects space first History.allSucceeded_nil begun).post ?_
    fun f _ h => .of_failed f h)
  rintro a t ⟨succeeded, inspecting, aVolume, aTold, ht⟩
  refine ensures_bind.mpr ((m.boundClaim_inspects space second succeeded inspecting).post ?_
    fun f _ h => .of_failed f h)
  rintro b u ⟨-, inspecting, bVolume, bTold, rfl⟩
  split
  · exact .of_failed _ inspecting
  rename_i volumes
  rw [ht, List.append_nil]
  exact whileDrained_warranted (.swap distinct aTold bTold volumes)
    ((m.rebind_asks space _).evictsNone (by decide) (by decide))

theorem run_warranted (m : Maintenance) (space : String) (force : Bool) (w : Workflow) {outcome : Except Failure Unit}
    {t : History} (run : (w.run m space force).RunsTo anyAnswers [] outcome t) :
    m.Warranted space force w outcome t := by
  have ensured : Ensures anyAnswers (fun _ _ => True) (w.run m space force)
      (fun a t => m.Warranted space force w (.ok a) t) (fun f t => m.Warranted space force w (.error f) t) [] := by
    cases w with
    | migrate claim target timeout => exact m.migrate_warranted space claim target timeout force
    | rename old new => exact m.rename_warranted space old new force
    | swap first second => exact m.swap_warranted space first second force
  cases outcome with
  | ok a => exact ensured.runsTo_ok run
  | error f => exact ensured.runsTo_error run

end Maintenance

/-! ## Pods at a site -/

namespace Site

/-- A pod of a namespace uses one of some claims. -/
def OrchestratorState.InUse (o : OrchestratorState) (space : String) (claims : List String) : Prop :=
  ∃ p ∈ o.pods, p.metadata.space.getD "" = space ∧ p.Uses claims

theorem OrchestratorState.inUse_iff {o : OrchestratorState} {space : String} {claims : List String} :
    o.InUse space claims ↔ ∃ p ∈ o.podsOf space, p.Uses claims := by
  simp only [InUse, podsOf, List.mem_mergeSort, List.mem_filter, decide_eq_true_eq, and_assoc]

/-- Inspections leave the pods. -/
theorem pods_of_inspecting {s t : Site} {past : History} (h : Program.Replays (I := collaborators) answer s past t)
    (hi : past.Inspecting) : t.orchestrator.pods = s.orchestrator.pods := by
  induction h with
  | nil => rfl
  | @cons past t call replays ih =>
    obtain ⟨hcall, hpast⟩ := List.forall_mem_cons.mp hi
    refine answer_keeps_orchestrator (K := fun o => o.pods = s.orchestrator.pods) (c := call)
      (t := (answer call t).2) rfl (ih hpast) ?_
    rintro r rfl
    cases r with
    | volume name => exact ih hpast
    | claim space name =>
      refine Eq.trans ?_ (ih hpast)
      simp only [OrchestratorState.answer, OrchestratorState.lookAtClaim]
      split
      · rfl
      · split
        · exact (OrchestratorState.pods_bind _ space name).1
        · rfl
    | _ => cases hcall

/-- The pods that are listed after inspections are those that were there at the beginning. -/
theorem pods_of_listing {s u : Site} {space : String} {pods : List Pod} {past : History}
    (h : Program.Replays (I := collaborators) answer s (Exchange.listing space (.ok pods) :: past) u)
    (hi : past.Inspecting) : pods = s.orchestrator.podsOf space := by
  obtain ⟨t, replays, answered⟩ := h.latest
  have listed : t.orchestrator.podsOf space = pods := Except.ok.inj (answer_orchestrator_ok answered).1
  rw [← listed, OrchestratorState.podsOf, OrchestratorState.podsOf, pods_of_inspecting replays hi]

end Site

namespace Maintenance

/-- At a site a run does what the pods warrant that were there when it began. -/
theorem Warranted.at_site {m : Maintenance} {space : String} {force : Bool} {w : Workflow} {s : Site}
    {outcome : Except Failure Unit} {t : History} (h : m.Warranted space force w outcome t) {u : Site}
    (replays : Program.Replays (I := collaborators) Site.answer s t u) :
    (s.orchestrator.InUse space w.claims → force = false →
      t.Without Call.changes ∧ (outcome = .ok () → w.Idle m space t)) ∧
    (¬s.orchestrator.InUse space w.claims → t.Without Call.marksNode ∧ t.deletedPods = []) := by
  cases first : (t.podListings space).getLast? with
  | none =>
    have ended := h.unlisted first
    exact ⟨fun _ _ => ended, fun _ => ⟨ended.1.unmarked, ended.1.deletedPods⟩⟩
  | some x =>
    cases x with
    | error f =>
      obtain ⟨rfl, unchanged⟩ := h.unheard f first
      exact ⟨fun _ _ => ⟨unchanged, fun e => by cases e⟩, fun _ => ⟨unchanged.unmarked, unchanged.deletedPods⟩⟩
    | ok pods =>
      -- nothing was changed before the listing, so it shows the pods that were there at the beginning
      obtain ⟨begun, passed, later, rfl⟩ := h.checked _ first
      obtain ⟨v, replays⟩ := replays.earlier
      obtain rfl := Site.pods_of_listing replays passed.inspecting
      rw [Site.OrchestratorState.inUse_iff]
      refine ⟨fun used unforced => ?_, fun unused => h.unused _ first fun p hp uses => unused ⟨p, hp, uses⟩⟩
      obtain ⟨rfl, unchanged⟩ := h.refused _ first used unforced
      exact ⟨unchanged, fun e => by cases e⟩

/-- **Nothing is changed before it may be.** Whatever the collaborators answer, a workflow lists the pods of its
namespace only when it has passed its checks, and has changed nothing by then. It ends there if that fails, or with a
conflict if a pod uses its claims and that is not to be forced; if none does, it marks no node and deletes no pod. So
at any site nothing is changed while a pod uses the claims that were given, unless that is forced. A drain that is
forced ends well only if all its calls succeeded, if it has deleted just those pods that it listed first and that use
the claims, holds the nodes of the driver, and saw none that uses the claims when it listed pods last. -/
theorem changes_are_warranted (m : Maintenance) (space : String) (force : Bool) :
    (∀ (w : Workflow) (outcome : Except Failure Unit) (t : History),
      (w.run m space force).RunsTo anyAnswers [] outcome t → m.Warranted space force w outcome t) ∧
    (∀ (w : Workflow) (s : Site),
      (s.orchestrator.InUse space w.claims → force = false →
        (Site.exchanges (w.run m space force) s).Without Call.changes ∧
          ((Site.run (w.run m space force) s).1 = .ok () →
            w.Idle m space (Site.exchanges (w.run m space force) s))) ∧
      (¬s.orchestrator.InUse space w.claims →
        (Site.exchanges (w.run m space force) s).Without Call.marksNode ∧
          (Site.exchanges (w.run m space force) s).deletedPods = [])) ∧
    ∀ (claims : List String) (held : Option Cordon) (t : History),
      (m.drain space claims force).RunsTo anyAnswers [] (.ok held) t →
      t.AllSucceeded ∧
        ∃ pods, (t.podListings space).getLast? = some (.ok pods) ∧ m.Drained space claims force pods held t := by
  refine ⟨fun w outcome t run => m.run_warranted space force w run, fun w s => ?_, fun claims held t run => ?_⟩
  · have warranted := m.run_warranted space force w (Site.runsTo_exchanges (w.run m space force) s)
    exact warranted.at_site (Site.replays_exchanges _ s)
  · have succeeded := (m.drain_ensures space claims force History.allSucceeded_nil).runsTo_ok run
    exact ⟨succeeded, (m.drain_evicts space claims force).runsTo_ok run⟩

set_option maxRecDepth 4000 in
/-- A claim that a pod uses is not renamed unless that is forced, and if it is, the pod is evicted. -/
theorem changes_are_warranted_in_use :
    (TwoNodes.inUse false).orchestrator.InUse "default" ["data"] ∧
      TwoNodes.driver.Warranted "default" false (.rename "data" "other")
        (Site.run (TwoNodes.driver.rename "default" "data" "other" false) (TwoNodes.inUse false)).1
        (Site.exchanges (TwoNodes.driver.rename "default" "data" "other" false) (TwoNodes.inUse false)) ∧
      (Site.exchanges (TwoNodes.driver.rename "default" "data" "other" false) (TwoNodes.inUse false)).Without
        Call.changes ∧
      ∃ pods, TwoNodes.driver.Evicted "default" ["data"] pods ⟨["w1"]⟩
        (Site.exchanges (TwoNodes.driver.drain "default" ["data"] true) (TwoNodes.inUse false)) := by
  have used : (TwoNodes.inUse false).orchestrator.InUse "default" ["data"] :=
    ⟨_, List.mem_singleton.mpr rfl, rfl, Pod.consumes_iff.mp (by decide)⟩
  obtain ⟨runs, atSite, -⟩ := changes_are_warranted TwoNodes.driver "default" false
  refine ⟨used, runs (.rename "data" "other") _ _ (Site.runsTo_exchanges _ _),
    ((atSite (.rename "data" "other") (TwoNodes.inUse false)).1 used rfl).1, ?_⟩
  have ends : (Site.run (TwoNodes.driver.drain "default" ["data"] true) (TwoNodes.inUse false)).1 =
      .ok (some ⟨["w1"]⟩) := eq_ok_of_toOption (by decide +kernel)
  have run := Site.runsTo_exchanges (TwoNodes.driver.drain "default" ["data"] true) (TwoNodes.inUse false)
  rw [ends] at run
  obtain ⟨-, -, drains⟩ := changes_are_warranted TwoNodes.driver "default" true
  obtain ⟨-, pods, -, drained⟩ := drains ["data"] _ _ run
  by_cases unused : ∀ p ∈ pods, ¬p.Uses ["data"]
  · cases (drained.unused unused).1
  · obtain ⟨-, cordon, ⟨⟩, evicted⟩ := drained.evicted (by simpa using unused)
    exact ⟨_, evicted⟩

end Maintenance

end ClusterVolumes
