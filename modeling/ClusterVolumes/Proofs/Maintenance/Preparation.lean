import ClusterVolumes.Maintenance.Drain
import ClusterVolumes.Proofs.History
import ClusterVolumes.Proofs.Site.Answers
import ClusterVolumes.Proofs.Site.Records

/-!
# What comes before and after the work

A workflow looks at its claims and their volumes, clears them of pods, does its work and gives the nodes back. All of
it but the work looks at things, deletes pods and marks nodes; it lets disks, volumes and claims be
(`boundClaim_ensures`, `drain_ensures`, `Cordon.release_keeps`). A drain gives a value only if all its calls
succeeded, because a cordon that failed half-way fails the drain.

Work that is done while claims are drained goes by what the drain leaves, and ends as marking nodes leaves it
(`ensures_whileDrained`). So a workflow is followed through its work by what preparing calls leave undisturbed
(`whileDrained_ensures`).
-/

namespace ClusterVolumes

open Orchestrator
open Service

/-- Is the call one of those that a workflow makes before and after its work? -/
def Call.isPreparing : Call → Bool
  | .cluster _ .members => true
  | .orchestrator (.claim ..) | .orchestrator (.volume _) => true
  | .orchestrator (.pods _) | .orchestrator (.deletePod ..) => true
  | .orchestrator .nodeDrivers | .orchestrator (.setUnschedulable ..) => true
  | .sleep _ | .deadline _ => true
  | _ => false

/-- Only preparing calls are made. -/
def Preparing (_ : History) (call : Call) : Prop :=
  call.isPreparing = true

/-! ## Bound claims -/

/-- The claim names the volume, which has the handle as one of the driver. -/
structure BoundClaim.Told (bound : BoundClaim) (driver volumeName : String) : Prop where
  named : bound.claim.volumeName? = some volumeName
  parsed : ∃ source, bound.volume.sourceOf? driver = some source ∧
    VolumeHandle.parseLegacy source.volumeHandle = .ok bound.handle

/-- A volume that a claim names has a name. -/
theorem BoundClaim.Told.volume_ne {bound : BoundClaim} {driver volumeName : String}
    (h : bound.Told driver volumeName) : volumeName ≠ "" := by
  have named := (Option.filter_eq_some_iff.mp h.named).2
  simpa using named

/-- A bound claim is found by a look at the claim and one at the volume that it names. -/
theorem Maintenance.boundClaim_ensures (m : Maintenance) (space name : String) {past : History}
    (h : past.AllSucceeded) :
    Ensures anyAnswers Preparing (m.boundClaim space name)
      (fun bound t => t.AllSucceeded ∧ ∃ volumeName, bound.Told m.driver volumeName ∧
        t = [Exchange.orchestrator (.volume volumeName) (.ok (some bound.volume)),
          Exchange.orchestrator (.claim space name) (.ok (some bound.claim))] ++ past)
      (fun _ _ => True) past := by
  unfold Maintenance.boundClaim
  refine ensures_bind.mpr (ask_orchestrator rfl (fun found => ?_) fun _ => trivial)
  refine ensures_bind.mpr (ensures_require.mpr ⟨?_, fun _ => trivial⟩)
  rintro claim rfl
  refine ensures_bind.mpr (ensures_require.mpr ⟨fun volumeName hname => ?_, fun _ => trivial⟩)
  refine ensures_bind.mpr (ensures_bind.mpr (ask_orchestrator rfl (fun found => ?_) fun _ => trivial))
  refine ensures_require.mpr ⟨?_, fun _ => trivial⟩
  rintro volume rfl
  refine ensures_bind.mpr (ensures_require.mpr ⟨fun source hsource => ?_, fun _ => trivial⟩)
  refine ensures_bind.mpr (ensures_ofExcept.mpr ?_)
  cases hparse : VolumeHandle.parseLegacy source.volumeHandle with
  | error f => exact trivial
  | ok handle =>
    refine ⟨?_, volumeName, ⟨hname, source, hsource, hparse⟩, rfl⟩
    exact History.allSucceeded_cons rfl (History.allSucceeded_cons rfl h)

/-! ## Draining -/

/-- Giving nodes back does not fail, and it keeps what each of its marks keeps. -/
theorem Cordon.release_keeps {σ : Type} {E : Environment collaborators σ} {P : σ → Call → Prop} {K : σ → Prop}
    (mark : ∀ t node, K t → P t (.orchestrator (.setUnschedulable node false)) ∧
      ∀ x u, E t (.orchestrator (.setUnschedulable node false)) x u → K u) (c : Cordon) {s : σ} (hs : K s) :
    Ensures E P c.release (fun _ t => K t) (fun _ _ => False) s := by
  refine Ensures.forM (fun _ t => K t) c.nodes (fun _ node _ t _ ht => ?_) (fun _ ht => ht) hs
  obtain ⟨may, keeps⟩ := mark t node ht
  refine ensures_bind.mpr (ensures_attempt.mpr (ensures_orchestrator.mpr ⟨may, fun x u e => ?_⟩))
  have kept := keeps x u e
  cases x <;> exact kept

theorem Cordon.release_ensures (c : Cordon) (past : History) :
    Ensures anyAnswers Preparing c.release (fun _ _ => True) (fun _ _ => False) past :=
  Cordon.release_keeps (fun _ _ _ => ⟨rfl, fun _ _ _ => trivial⟩) c trivial

/-- If holding nodes back tells of no failure there was none. -/
theorem Cordon.holdAll_ensures : ∀ (nodes : List String) (c : Cordon) (past : History), past.AllSucceeded →
    Ensures anyAnswers Preparing (c.holdAll nodes) (fun o t => o.2 = .ok () → t.AllSucceeded) (fun _ _ => False) past
  | [], _, _, h => fun _ => h
  | node :: rest, c, past, h => by
    unfold Cordon.holdAll
    refine ensures_bind.mpr ?_
    unfold Cordon.hold
    split
    · exact Cordon.holdAll_ensures rest c past h
    · refine ensures_bind.mpr (ensures_attempt.mpr (ask_orchestrator rfl (fun _ => ?_) fun f => ?_))
      · exact Cordon.holdAll_ensures rest _ _ (History.allSucceeded_cons rfl h)
      · intro e
        cases e

namespace Maintenance

theorem consumers_ensures (space : String) (claims : List String) {past : History} (h : past.AllSucceeded) :
    Ensures anyAnswers Preparing (consumers space claims) (fun _ t => t.AllSucceeded) (fun _ _ => True) past :=
  ensures_bind.mpr (ask_orchestrator rfl (fun _ => History.allSucceeded_cons rfl h) fun _ => trivial)

theorem areFree_ensures (space : String) (claims : List String) {past : History} (h : past.AllSucceeded) :
    Ensures anyAnswers Preparing (areFree space claims) (fun _ t => t.AllSucceeded) (fun _ _ => True) past :=
  ensures_bind.mpr (consumers_ensures space claims h)

/-- Clearing claims of pods ends well only if all its calls succeeded. -/
theorem clear_ensures (m : Maintenance) (space : String) (claims : List String) (pods : List Pod) {past : History}
    (h : past.AllSucceeded) :
    Ensures anyAnswers Preparing (m.clear space claims pods) (fun _ t => t.AllSucceeded) (fun _ _ => True) past := by
  have settle : ∀ {t : History}, t.AllSucceeded → Ensures anyAnswers Preparing (Service.sleep m.timing.settling)
      (fun _ u => u.AllSucceeded) (fun _ _ => True) t := fun ht =>
    ask_sleep rfl (History.allSucceeded_cons rfl ht)
  unfold Maintenance.clear
  refine ensures_bind.mpr (Ensures.forM (fun _ t => t.AllSucceeded) pods (fun _ p _ t _ ht => ?_) (fun t ht => ?_) h)
  · exact ask_orchestrator rfl (fun _ => History.allSucceeded_cons rfl ht) fun _ => trivial
  · refine ensures_bind.mpr (ask_deadline rfl ?_ trivial)
    have polled : Ensures anyAnswers Preparing (Service.poll m.timing.pause (areFree space claims)
        (Service.attempts m.timing.draining m.timing.pause)) (fun _ u => u.AllSucceeded) (fun _ _ => True)
        (⟨.deadline m.timing.draining, true⟩ :: t) := by
      refine Ensures.poll (K := History.AllSucceeded)
        (fun u hu => (areFree_ensures space claims hu).post ?_ fun _ _ h => h) (fun _ hu => hu) _ _
        (History.allSucceeded_cons rfl ht)
      rintro (_ | a) v hv
      · refine ⟨rfl, ?_⟩
        rintro _ _ rfl
        exact History.allSucceeded_cons rfl hv
      · exact hv
    refine ensures_bind.mpr (polled.post ?_ fun _ _ h => h)
    rintro (_ | a) u hu
    · refine ensures_bind.mpr ((areFree_ensures space claims hu).post (fun o v hv => ?_) fun _ _ h => h)
      exact ensures_bind.mpr (ensures_require.mpr ⟨fun _ _ => settle hv, fun _ => trivial⟩)
    · exact settle hu

/-- A drain gives a value only if all its calls succeeded. -/
theorem drain_ensures (m : Maintenance) (space : String) (claims : List String) (force : Bool) {past : History}
    (h : past.AllSucceeded) :
    Ensures anyAnswers Preparing (m.drain space claims force) (fun _ t => t.AllSucceeded) (fun _ _ => True) past := by
  unfold Maintenance.drain
  refine ensures_bind.mpr ((consumers_ensures space claims h).post (fun pods t ht => ?_) fun _ _ h => h)
  split
  · exact ht
  split
  · exact trivial
  refine ensures_bind.mpr (ensures_bind.mpr (ask_orchestrator rfl (fun l => ?_) fun _ => trivial))
  refine ensures_bind.mpr ((Cordon.holdAll_ensures _ _ _ (History.allSucceeded_cons rfl ht)).post ?_
    fun _ _ h => h.elim)
  rintro ⟨held, cordoned⟩ u hu
  refine ensures_bind.mpr (ensures_attempt.mpr (ensures_bind.mpr (ensures_ofExcept.mpr ?_)))
  cases cordoned with
  | error f =>
    exact ensures_bind.mpr ((Cordon.release_ensures held u).post (fun _ _ _ => trivial) fun _ _ h => h.elim)
  | ok _ =>
    refine (clear_ensures m space claims pods (hu rfl)).post (fun _ _ hv => hv) fun f v _ => ?_
    exact ensures_bind.mpr ((Cordon.release_ensures held v).post (fun _ _ _ => trivial) fun _ _ h => h.elim)

end Maintenance

/-! ## Work in between -/

section

variable {σ : Type} {E : Environment collaborators σ} {past : σ → History} {P : σ → Call → Prop}

/-- Preparing calls may be made where `K` holds, and keep it. -/
structure Undisturbed (E : Environment collaborators σ) (P : σ → Call → Prop) (K : σ → Prop) : Prop where
  may : ∀ s call, call.isPreparing = true → K s → P s call
  keeps : ∀ s call x t, call.isPreparing = true → K s → E s call x t → K t

/-- A service that makes preparing calls only is followed by what they leave undisturbed. -/
theorem Undisturbed.ensures {K : σ → Prop} (hK : Undisturbed E P K) (hE : Program.Remembers E past) {α : Type}
    {service : Service α} {good : α → History → Prop} {bad : Failure → History → Prop} {s : σ}
    (h : Ensures anyAnswers Preparing service good bad (past s)) (hs : K s) :
    Ensures E P service (fun a t => good a (past t) ∧ K t) (fun f t => bad f (past t) ∧ K t) s :=
  ((h.remembered hE).and_invariant (fun s call x t hs hc e => hK.keeps s call x t hc hs e) hs).mono
    (fun s call h => hK.may s call h.1 h.2) (fun _ _ h => h) fun _ _ h => h

/-- Work that is done while claims are drained goes by what the drain leaves, and ends as marking nodes leaves it. -/
theorem Maintenance.ensures_whileDrained (m : Maintenance) (space : String) (claims : List String) (force : Bool)
    {K : σ → Prop} {work : Service Unit} {good : Unit → σ → Prop} {bad : Failure → σ → Prop} {s : σ}
    (drained : Ensures E P (m.drain space claims force) (fun _ t => K t) bad s)
    (run : ∀ t, K t → Ensures E P work good bad t)
    (mark : ∀ o t node, onOutcome good bad o t → P t (.orchestrator (.setUnschedulable node false)) ∧
      ∀ x u, E t (.orchestrator (.setUnschedulable node false)) x u → onOutcome good bad o u) :
    Ensures E P (m.whileDrained space claims force work) good bad s := by
  have release : ∀ (c : Cordon) (outcome : Except Failure Unit) (t : σ), onOutcome good bad outcome t →
      Ensures E P (c.release >>= fun _ => Service.ofExcept outcome) good bad t := fun c outcome t ht =>
    ensures_bind.mpr ((Cordon.release_keeps (mark outcome) c ht).post
      (fun _ _ h => ensures_ofExcept.mpr h) fun _ _ h => h.elim)
  unfold Maintenance.whileDrained
  refine ensures_bind.mpr (drained.post (fun held t ht => ?_) fun _ _ h => h)
  refine ensures_bind.mpr (ensures_attempt.mpr ((run t ht).post (fun a u hu => ?_) fun f u hu => ?_))
  · exact release (held.getD {}) (.ok a) u hu
  · exact release (held.getD {}) (.error f) u hu

/-- Work that is done while claims are drained goes by what is undisturbed before it, and by what is afterwards. -/
theorem Maintenance.whileDrained_ensures (m : Maintenance) (hE : Program.Remembers E past) (space : String)
    (claims : List String) (force : Bool) {K : σ → Prop} {work : Service Unit} {good : Unit → σ → Prop}
    {bad : Failure → σ → Prop} (before : Undisturbed E P K) (after : ∀ o, Undisturbed E P (onOutcome good bad o))
    (idle : ∀ f t, K t → bad f t)
    (run : ∀ t, (past t).AllSucceeded → K t → Ensures E P work good bad t) {s : σ}
    (h : (past s).AllSucceeded) (hs : K s) :
    Ensures E P (m.whileDrained space claims force work) good bad s := by
  have drained := before.ensures hE (drain_ensures m space claims force h) hs
  refine m.ensures_whileDrained space claims force (drained.post (fun _ _ h => h) fun f t ht => idle f t ht.2)
    (fun t ht => run t ht.1 ht.2) fun o t node ht => ⟨?_, fun x u e => ?_⟩
  · exact (after o).may t _ rfl ht
  · exact (after o).keeps t _ x u rfl ht e

end

/-! ## A region of two nodes -/

namespace Maintenance.TwoNodes

/-- The driver with one region. -/
def driver : Maintenance where
  fleet := ⟨⟨[("r1", ⟨true⟩)], by decide⟩⟩
  driver := "d"

/-- The disk of a volume on the first node. -/
def handle : VolumeHandle :=
  ⟨"r1", "z1", "data", "vm-9999-pvc-1"⟩

/-- The region, whose storage both nodes have; the nodes may share it. -/
def cluster (shared : Bool) : Site.ClusterState where
  members := [{ kind := "node", name := "z1", online := true }, { kind := "node", name := "z2", online := true }]
  storages := [⟨"z1", "data", { shared }⟩, ⟨"z2", "data", { shared }⟩]
  disks := [⟨if shared then "" else "z1", "data", { volid := "data:vm-9999-pvc-1" }⟩]

/-- The volume as it is recorded. -/
def volume : VolumeRecord where
  metadata := { name := some "pvc-1" }
  spec := some
    { source := some { driver := "d", volumeHandle := handle.text }, reclaimPolicy := some "Delete" }

/-- The claim that has the volume. -/
def claim : Claim where
  metadata := { name := some "data", space := some "default" }
  spec := some { volumeName := some "pvc-1" }

/-- The region with an orchestrator that records the claim and its volume. -/
def site (shared : Bool) : Site where
  clusters := Keyed.empty.put "r1" (some (cluster shared))
  orchestrator :=
    { volumes := Keyed.empty.put "pvc-1" (some volume)
      claims := Keyed.empty.put ("default", "data") (some claim) }

theorem named (shared : Bool) : (site shared).orchestrator.Named := by
  intro name v hv
  by_cases hn : name = "pvc-1"
  · subst hn
    cases hv
    rfl
  · exact nomatch (Keyed.put_of_ne Keyed.empty (some volume) hn).symm.trans hv

end Maintenance.TwoNodes

end ClusterVolumes
