import ClusterVolumes.Proofs.Maintenance.Draining
import ClusterVolumes.Proofs.Maintenance.Relocation
import ClusterVolumes.Proofs.Volume.HandleText

/-!
# The effect of a migration

A claim that is bound to a volume of the driver is found as it is, and finding it changes nothing
(`boundClaim_found`). If the disk is on the target already, that is all (`migrate_stays`). Otherwise the volume is
relocated while its claim is drained, so what is changed is what a relocation brings about, and the pods that are
deleted are those that used the claim (`migrate_moves`). `migrate_effect` says both of the runs of a site.
-/

namespace ClusterVolumes

open Orchestrator
open Service

/-! ## Bound claims -/

/-- At a site a claim is bound to a volume of the driver: the claim names the volume, and the volume has a claim. -/
structure BoundClaim.IsAt (bound : BoundClaim) (driver space name : String) (s : Site) : Prop where
  claim : s.orchestrator.claims (space, name) = some bound.claim
  volume : s.orchestrator.volumes bound.volume.name = some bound.volume
  told : bound.Told driver bound.volume.name
  claimed : (bound.volume.spec.bind (·.claimRef)).isSome = true

/-- The claim with its volume when the disk is on another node. -/
def BoundClaim.moved (bound : BoundClaim) (target policy : String) : BoundClaim where
  claim := bound.claim
  volume := bound.volume.relocated { bound.handle with zone := target } target policy
  handle := { bound.handle with zone := target }

/-- Nothing was changed, and a site is another one but for how often claims have still to be looked at. -/
structure Untouched (s : Site) (v : Site × History) : Prop where
  faults : v.1.faults = []
  clusters : v.1.clusters = s.clusters
  orchestrator : ∃ looks, v.1.orchestrator = { s.orchestrator with unbound := looks }
  changing : v.2.changing = []

/-- At the beginning nothing was changed. -/
theorem Untouched.refl {s : Site} (hf : s.faults = []) : Untouched s (s, []) :=
  ⟨hf, rfl, ⟨s.orchestrator.unbound, rfl⟩, rfl⟩

theorem Untouched.rests {s : Site} {v : Site × History} (h : Untouched s v) : Rests s v.1 := by
  obtain ⟨looks, e⟩ := h.orchestrator
  refine ⟨h.faults, h.clusters, ?_, ?_⟩
  · rw [e]
  · rw [e]

theorem Untouched.consumerKeys {s : Site} {v : Site × History} (h : Untouched s v) (space : String)
    (claims : List String) : v.1.orchestrator.consumerKeys space claims = s.orchestrator.consumerKeys space claims := by
  obtain ⟨looks, e⟩ := h.orchestrator
  rw [e]
  rfl

/-- A call that changes nothing deletes no pod. -/
theorem Call.spares_of_not_changes {keys : List (String × String)} {call : Call} (h : call.changes = false) :
    call.spares keys := by
  rintro space name rfl
  cases h

/-! ## The record of a moved volume -/

namespace Orchestrator.VolumeRecord

/-- A record has the name, the policy and the claim of another one, and tells the driver a handle. -/
structure Readdressed (driver : String) (handle : VolumeHandle) (v v' : VolumeRecord) : Prop where
  name : v'.name = v.name
  policy : v'.policy? = v.policy?
  claimRef : v'.spec.bind (·.claimRef) = v.spec.bind (·.claimRef)
  source : ∃ source, v'.sourceOf? driver = some source ∧ source.volumeHandle = handle.text

/-- A relocated volume is the one that it was, under another handle. -/
theorem readdressed_relocated (handle : VolumeHandle) (zone : String) {driver policy : String} {v : VolumeRecord}
    {source : DriverSource} (hs : v.sourceOf? driver = some source) (hp : v.policy? = some policy) :
    Readdressed driver handle v (v.relocated handle zone policy) := by
  obtain ⟨there, own⟩ := Option.filter_eq_some_iff.mp hs
  obtain ⟨spec, hspec, has⟩ := Option.bind_eq_some_iff.mp there
  refine ⟨rfl, ?_, ?_, { source with volumeHandle := handle.text }, ?_, rfl⟩
  · rw [hp]
    simp [policy?, relocated, VolumeSpec.relocated, hspec]
  · simp [relocated, VolumeSpec.relocated, hspec]
  · refine Option.filter_eq_some_iff.mpr ⟨?_, own⟩
    simp [relocated, VolumeSpec.relocated, hspec, has]

end Orchestrator.VolumeRecord

namespace Maintenance

section

variable (m : Maintenance) {space claim target policy : String} {s : Site} {bound : BoundClaim}

/-! ## Finding the claim -/

/-- A bound claim is found as it is, and nothing is changed. -/
theorem boundClaim_found {P : Site × History → Call → Prop} {u : Site × History} (hu : Untouched s u)
    (h : bound.IsAt m.driver space claim s) (hP : ∀ v call, call.changes = false → P v call) :
    Ensures Site.recorded P (m.boundClaim space claim) (fun b v => bound = b ∧ Untouched s v) (fun _ _ => False) u := by
  obtain ⟨source, own, read⟩ := h.told.parsed
  obtain ⟨looks, same⟩ := hu.orchestrator
  have claimed : u.1.orchestrator.claims (space, claim) = some bound.claim := by
    rw [same]
    exact h.claim
  have recorded : u.1.orchestrator.volumes bound.volume.name = some bound.volume := by
    rw [same]
    exact h.volume
  obtain ⟨looks', seen⟩ := Site.OrchestratorState.lookAtClaim_of_claimed claimed h.told.named recorded h.claimed
  unfold boundClaim volumeRecord
  refine ensures_bind.mpr (Site.ensures_orchestrator_faultless hu.faults (hP _ _ rfl)
    fun v faults clusters kept past => ?_)
  simp only [Site.OrchestratorState.answer, seen] at kept past ⊢
  refine ensures_bind.mpr (ensures_require.mpr ⟨fun c hc => ?_, fun h => by cases h⟩)
  obtain rfl := Option.some.inj hc
  rw [h.told.named]
  refine ensures_bind.mpr (ensures_require.mpr ⟨fun n hn => ?_, fun h => by cases h⟩)
  obtain rfl := Option.some.inj hn
  refine ensures_bind.mpr (ensures_bind.mpr (Site.ensures_orchestrator_faultless faults (hP _ _ rfl)
    fun w faults' clusters' kept' past' => ?_))
  have still : v.1.orchestrator.volumes bound.volume.name = some bound.volume := by
    rw [kept]
    exact recorded
  have untouched : Untouched s w := by
    refine ⟨faults', clusters'.trans (clusters.trans hu.clusters), ⟨looks', ?_⟩, ?_⟩
    · rw [kept'.trans kept, same]
    · rw [past', past]
      exact hu.changing
  simp only [Site.OrchestratorState.answer, still]
  refine ensures_require.mpr ⟨fun r hr => ?_, fun h => by cases h⟩
  obtain rfl := Option.some.inj hr
  rw [own]
  refine ensures_bind.mpr (ensures_require.mpr ⟨fun d hd => ?_, fun h => by cases h⟩)
  obtain rfl := Option.some.inj hd
  rw [read]
  exact ⟨rfl, untouched⟩

/-! ## Both ways of a migration -/

/-- A disk that is on the target stays there. -/
theorem migrate_stays (force : Bool) (timeout : Nat) (hf : s.faults = []) (h : bound.IsAt m.driver space claim s)
    (node : bound.handle.zone ≠ "") (here : bound.handle.zone = target) :
    Ensures Site.recorded (fun _ _ => True) (m.migrate space claim target force timeout) (fun _ v => Untouched s v)
      (fun _ _ => False) (s, []) := by
  have own : bound.handle.isShared = false := by simpa [VolumeHandle.isShared] using node
  unfold migrate
  refine ensures_bind.mpr ((m.boundClaim_found (.refl hf) h fun _ _ _ => trivial).post ?_ fun _ _ h => h)
  rintro _ v ⟨rfl, untouched⟩
  simp only [own, here]
  exact untouched

/-- What rests before a relocation and after it has no part in what it brings about. -/
theorem Relocated.of_rests {handle : VolumeHandle} {volume : VolumeRecord} {t u v : Site} (before : Rests s t)
    (h : Relocated handle target policy volume t u) (after : Rests u v) :
    Relocated handle target policy volume s v := by
  obtain ⟨c, c', hc, clusters, moved⟩ := h.disks
  refine ⟨after.faults, ⟨c, c', ?_, ?_, moved⟩, ?_, ?_⟩
  · rw [← before.clusters, hc]
  · rw [after.clusters, clusters, before.clusters]
  · rw [after.volumes, h.volumes, before.volumes]
  · rw [after.claims, h.claims, before.claims]

/-- While its claim is drained a volume is relocated, and of the pods those only are deleted that use the claim. -/
theorem relocate_whileDrained (space claim : String) {u : Site × History} (force : Bool) (timeout : Nat)
    (hf : u.1.faults = []) (hv : u.1.orchestrator.volumes bound.volume.name = some bound.volume)
    (hp : bound.volume.policy? = some policy)
    (apart : ∀ c, u.1.clusters bound.handle.region = some c → c.isShared bound.handle.storage = false)
    (elsewhere : bound.handle.zone ≠ target) :
    Ensures Site.recorded (fun _ call => call.spares (u.1.orchestrator.consumerKeys space [claim]))
      (m.whileDrained space [claim] force (m.relocate bound target timeout))
      (fun _ v => Relocated bound.handle target policy bound.volume u.1 v.1) (fun _ _ => True) u := by
  refine m.whileDrained_rests force hf (fun v rests => ?_) fun v w node x hv e => ?_
  · have relocates := m.relocate_relocated timeout rests.faults (rests.volumes ▸ hv) hp (rests.clusters ▸ apart)
      elsewhere
    have spares : Ensures Site.recorded (fun _ call => call.spares (u.1.orchestrator.consumerKeys space [claim]))
        (m.relocate bound target timeout) (fun _ _ => True) (fun _ _ => True) v :=
      (m.relocate_asks bound target timeout).ensures (K := fun _ => True) Site.remembers_recorded
        (fun _ _ hc _ => Call.spares_of_isWithin hc (by decide)) (fun _ _ _ _ _ _ _ => trivial) trivial
    refine (relocates.and spares).mono (fun _ _ h => h.2) (fun _ w h => ?_) fun _ _ _ => trivial
    exact Relocated.of_rests rests h.1 (.refl h.1.faults)
  · have marks : Call.drains [] (.orchestrator (.setUnschedulable node false)) := Or.inl rfl
    have rests : Rests v.1 w.1 := rests_of_drains hv.faults marks (Site.recorded_eq.mp e).1
    exact Relocated.of_rests (.refl hf) hv rests

/-- A disk that is on another node is relocated, and of the pods those only are deleted that use the claim. -/
theorem migrate_moves (force : Bool) (timeout : Nat) (hf : s.faults = []) (h : bound.IsAt m.driver space claim s)
    (hp : bound.volume.policy? = some policy)
    (apart : ∀ c, s.clusters bound.handle.region = some c → c.isShared bound.handle.storage = false)
    (elsewhere : bound.handle.zone ≠ target) :
    Ensures Site.recorded (fun _ call => call.spares (s.orchestrator.consumerKeys space [claim]))
      (m.migrate space claim target force timeout)
      (fun _ v => bound.handle.storage ≠ "" ∧ Relocated bound.handle target policy bound.volume s v.1) (fun _ _ => True)
      (s, []) := by
  unfold migrate
  refine ensures_bind.mpr ((m.boundClaim_found (.refl hf) h fun _ _ => Call.spares_of_not_changes).post ?_
    fun _ _ _ => trivial)
  rintro _ v ⟨rfl, untouched⟩
  simp only [if_neg elsewhere]
  split
  · trivial
  split
  · trivial
  rename_i storage
  refine ensures_bind.mpr (ensures_bind.mpr (ensures_ofExcept.mpr ?_))
  cases m.fleet.isPrivileged bound.handle.region with
  | error f => trivial
  | ok privileged =>
    simp only [onOutcome]
    split
    · refine ensures_bind.mpr (ensures_bind.mpr (Site.ensures_look untouched.faults (fun _ => rfl)
        (Call.spares_of_not_changes rfl) (fun c _ w same _ => ?_) fun _ _ _ _ => trivial))
      simp only [Site.ClusterState.answer, onOutcome, ensures_pure]
      split
      · have rests : Rests s w.1 := untouched.rests.trans same.rests
        have keys : w.1.orchestrator.consumerKeys space [claim] = s.orchestrator.consumerKeys space [claim] := by
          rw [same.orchestrator, untouched.consumerKeys]
        have drained := m.relocate_whileDrained space claim force timeout rests.faults (rests.volumes ▸ h.volume)
          hp (rests.clusters ▸ apart) elsewhere
        rw [keys] at drained
        refine drained.post (fun _ z hz => ⟨?_, Relocated.of_rests rests hz (.refl hz.faults)⟩) fun _ _ h => h
        simpa using storage
      · trivial
    · trivial

/-! ## Runs -/

/-- The volume of a claim has moved to another node. Its disk is there and not where it was, its record is the one
that it was but for the handle, and all other disks, volumes and claims are the same. Of the pods those only were
deleted that used the claim, and the others stay. -/
structure Migrated (driver space claim target policy : String) (bound : BoundClaim) (s t : Site) (past : History) :
    Prop where
  relocated : Relocated bound.handle target policy bound.volume s t
  record : ∃ record, t.orchestrator.volumes bound.volume.name = some record ∧
    bound.volume.Readdressed driver { bound.handle with zone := target } record
  readable : '/' ∉ target.toList → (bound.moved target policy).IsAt driver space claim t
  deleted : ∀ space' name x, Exchange.orchestrator (.deletePod space' name) x ∈ past →
    ∃ p ∈ s.orchestrator.pods, p.consumes [claim] = true ∧ Site.OrchestratorState.podKey p = (space', name) ∧
      space' = space
  spared : KeepsPods (s.orchestrator.consumerKeys space [claim]) s t

/-- A claim whose volume was relocated is bound to it under its new handle. -/
theorem Relocated.isAt {driver : String} {t : Site} (h : Relocated bound.handle target policy bound.volume s t)
    (atSite : bound.IsAt driver space claim s) (hp : bound.volume.policy? = some policy)
    (hs : bound.handle.storage ≠ "") (ht : '/' ∉ target.toList) :
    (bound.moved target policy).IsAt driver space claim t := by
  obtain ⟨source, own, read⟩ := atSite.told.parsed
  have record := VolumeRecord.readdressed_relocated { bound.handle with zone := target } target own hp
  obtain ⟨source', own', text⟩ := record.source
  refine ⟨?_, ?_, ⟨atSite.told.named, source', own', ?_⟩, ?_⟩
  · rw [h.claims]
    exact atSite.claim
  · rw [h.volumes]
    exact Keyed.put_self _ _ _
  · rw [text]
    exact VolumeHandle.parseLegacy_moved read hs ht
  · exact record.claimRef ▸ atSite.claimed

/-- What a run to another node has brought about when it ends well. -/
theorem migrated_of_run {t : Site} {force : Bool} {timeout : Nat} (hf : s.faults = [])
    (h : bound.IsAt m.driver space claim s) (hp : bound.volume.policy? = some policy)
    (apart : ∀ c, s.clusters bound.handle.region = some c → c.isShared bound.handle.storage = false)
    (elsewhere : bound.handle.zone ≠ target)
    (hrun : Site.run (m.migrate space claim target force timeout) s = (.ok (), t)) :
    Migrated m.driver space claim target policy bound s t
      (Site.exchanges (m.migrate space claim target force timeout) s) := by
  let keys := s.orchestrator.consumerKeys space [claim]
  have moves := (m.migrate_moves force timeout hf h hp apart elsewhere).and_invariant
    (K := fun v => KeepsPods keys s v.1 ∧ ∀ e ∈ v.2, Call.spares keys e.request) ?_ ⟨fun _ stays _ => stays, ?_⟩
  · have ended := Site.run_exchanges_ended moves
    rw [hrun] at ended
    obtain ⟨⟨storage, relocated⟩, spared, deleted⟩ := ended
    obtain ⟨source, own, -⟩ := h.told.parsed
    have record := VolumeRecord.readdressed_relocated { bound.handle with zone := target } target own hp
    refine ⟨relocated, ⟨_, ?_, record⟩, relocated.isAt h hp storage, ?_, spared⟩
    · rw [relocated.volumes]
      exact Keyed.put_self _ _ _
    · intro space' name x mem
      exact Site.OrchestratorState.mem_consumerKeys.mp (deleted _ mem space' name rfl)
  · rintro v call x w ⟨spared, deleted⟩ hc e
    obtain ⟨answered, past⟩ := Site.recorded_eq.mp e
    refine ⟨spared.step hc answered, ?_⟩
    rw [past]
    exact List.forall_mem_cons.mpr ⟨hc, deleted⟩
  · rintro _ ⟨⟩

/-- **The effect of a migration.** At a site without faults, of a claim whose volume is on a storage that nodes keep
apart: a migration to another node that ends well has moved the volume and nothing else, and one to the node that the
disk is on ends well and changes nothing. -/
theorem migrate_effect (force : Bool) (timeout : Nat) (hf : s.faults = []) (h : bound.IsAt m.driver space claim s)
    (hp : bound.volume.policy? = some policy) (node : bound.handle.zone ≠ "")
    (apart : ∀ c, s.clusters bound.handle.region = some c → c.isShared bound.handle.storage = false) :
    (bound.handle.zone ≠ target → ∀ t, Site.run (m.migrate space claim target force timeout) s = (.ok (), t) →
      Migrated m.driver space claim target policy bound s t
        (Site.exchanges (m.migrate space claim target force timeout) s)) ∧
    (bound.handle.zone = target → ∃ t, Site.run (m.migrate space claim target force timeout) s = (.ok (), t) ∧
      Untouched s (t, Site.exchanges (m.migrate space claim target force timeout) s)) := by
  refine ⟨fun elsewhere t hrun => m.migrated_of_run hf h hp apart elsewhere hrun, fun here => ?_⟩
  have ended := Site.run_exchanges_ended (m.migrate_stays force timeout hf h node here)
  cases hrun : Site.run (m.migrate space claim target force timeout) s with
  | mk outcome t =>
    rw [hrun] at ended
    cases outcome with
    | error f => exact ended.elim
    | ok _ => exact ⟨t, rfl, ended⟩

end

namespace TwoNodes

/-- The claim with its volume, which names it. -/
def bound : BoundClaim where
  claim := claim
  volume := { volume with spec := volume.spec.map fun spec =>
    { spec with claimRef := some { space := some "default", name := some "data" } } }
  handle := handle

/-- The region while a pod uses the claim, and one in another namespace uses a claim of the same name. -/
def occupied : Site where
  clusters := (site false).clusters
  orchestrator :=
    { volumes := Keyed.empty.put "pvc-1" (some bound.volume)
      claims := Keyed.empty.put ("default", "data") (some claim)
      pods := [
        { metadata := { name := some "web-0", space := some "default" }
          spec := some { nodeName := some "w1", volumes := some [{ claim := some { claimName := "data" } }] } },
        { metadata := { name := some "web-0", space := some "other" }
          spec := some { nodeName := some "w1", volumes := some [{ claim := some { claimName := "data" } }] } }] }

theorem bound_isAt : bound.IsAt "d" "default" "data" occupied := by
  have formed : handle.WellFormed := ⟨⟨by decide, by decide, by decide⟩, rfl, rfl, rfl, by decide⟩
  refine ⟨rfl, rfl, ⟨rfl, _, rfl, ?_⟩, rfl⟩
  exact (VolumeHandle.parseLegacy_text handle).trans (VolumeHandle.parse_eq_ok_iff.mpr ⟨rfl, formed⟩)

end TwoNodes

set_option maxRecDepth 4000 in
/-- A volume that a pod uses is moved to the second node, where its claim has it under a handle that can be read.
Moved to the node that it is on, it stays as it is. -/
theorem migrate_effect_occupied :
    (∃ t, Site.run (TwoNodes.driver.migrate "default" "data" "z2" true 10000) TwoNodes.occupied = (.ok (), t) ∧
      Migrated "d" "default" "data" "z2" "Delete" TwoNodes.bound TwoNodes.occupied t
        (Site.exchanges (TwoNodes.driver.migrate "default" "data" "z2" true 10000) TwoNodes.occupied)) ∧
      ∃ t, Site.run (TwoNodes.driver.migrate "default" "data" "z1" true 10000) TwoNodes.occupied = (.ok (), t) ∧
        Untouched TwoNodes.occupied
          (t, Site.exchanges (TwoNodes.driver.migrate "default" "data" "z1" true 10000) TwoNodes.occupied) := by
  have apart : ∀ c, TwoNodes.occupied.clusters "r1" = some c → c.isShared "data" = false := by
    intro c hc
    obtain rfl : TwoNodes.cluster false = c := Option.some.inj hc
    decide
  constructor
  · have ok : (Site.run (TwoNodes.driver.migrate "default" "data" "z2" true 10000)
        TwoNodes.occupied).1.isOk = true := by decide +kernel
    cases hrun : Site.run (TwoNodes.driver.migrate "default" "data" "z2" true 10000) TwoNodes.occupied with
    | mk outcome t =>
      rw [hrun] at ok
      cases outcome with
      | error f => cases ok
      | ok _ =>
        exact ⟨t, rfl, (migrate_effect TwoNodes.driver true 10000 rfl TwoNodes.bound_isAt rfl (by decide) apart).1
          (by decide) t hrun⟩
  · exact (migrate_effect TwoNodes.driver true 10000 rfl TwoNodes.bound_isAt rfl (by decide) apart).2 rfl

end Maintenance

end ClusterVolumes
