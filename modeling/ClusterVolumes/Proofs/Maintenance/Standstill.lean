import ClusterVolumes.Proofs.Maintenance.Effect
import ClusterVolumes.Proofs.Site.Prompt
import Mathlib.Logic.ExistsUnique

/-!
# Where a migration that fails comes to a standstill

At a prompt site a call that fails has changed nothing, so a migration that fails stands where its last step left it.
Three calls decide where that is: the one that deletes the record of the volume, the one that makes it anew and the one
that deletes the source (`Call.decides`). All others leave volumes and the source alone but for the policy under which
the volume is retained, so `Stands`, which says what is recorded, where the disk is and how the deciding calls went, is
followed through a run call by call (`Stands.step`, `Stands.orchestrator`).

A failed migration is then at one standstill of three, and the call that failed tells at which (`migrate_standstill`).
-/

namespace ClusterVolumes

open Orchestrator
open Service

/-! ## Calls that decide -/

/-- Does the call delete a disk, or make or delete the record of a volume? -/
def Call.decides : Call → Bool
  | .cluster _ (.deleteDisk ..) => true
  | .orchestrator (.createVolume _) | .orchestrator (.deleteVolume _) => true
  | _ => false

/-- The call deletes no disk, writes no volume, and does not ask about claims, which might bind one. -/
def Call.isIdle : Call → Prop
  | .cluster region r => (Call.cluster region r).deletesDisk = false
  | .orchestrator r => r.writesVolume = false ∧ r.subject ≠ .claims
  | _ => True

/-- An idle call decides nothing. -/
theorem Call.decides_of_isIdle {call : Call} (h : call.isIdle) : call.decides = false := by
  cases call with
  | cluster region r => cases r <;> first | rfl | cases h
  | orchestrator r => cases r <;> first | rfl | cases h.1
  | _ => rfl

/-- A request to a cluster is idle if it deletes no disk. -/
theorem Call.isIdle_cluster {region : String} {r : Hypervisor.Request}
    (h : (Call.cluster region r).deletesDisk = false) : (Call.cluster region r).isIdle := h

/-- A mark of a node is idle. -/
theorem Call.isIdle_mark (node : String) (unschedulable : Bool) :
    (Call.orchestrator (.setUnschedulable node unschedulable)).isIdle := ⟨rfl, nofun⟩

/-- The deciding calls with their answers, the latest first. -/
def History.deciding (past : History) : History :=
  past.filter fun e => e.request.decides

theorem History.deciding_cons {e : Program.Exchange collaborators} {past : History} :
    deciding (e :: past) = if e.request.decides then e :: deciding past else deciding past :=
  List.filter_cons

/-- A deciding call was made if it is among those that decided. -/
theorem History.mem_deciding {e : Program.Exchange collaborators} {past : History} (he : e.request.decides = true) :
    e ∈ past.deciding ↔ e ∈ past := by
  simp [deciding, he]

/-- A request that writes no volume and is not about claims leaves all volumes. -/
theorem Site.OrchestratorState.volumes_of_idle {r : Request} (hw : r.writesVolume = false) (hs : r.subject ≠ .claims)
    (o : OrchestratorState) : (o.answer r).2.volumes = o.volumes := by
  cases r with
  | createVolume v => cases hw
  | replaceVolume v => cases hw
  | deleteVolume name => cases hw
  | claim space name => exact absurd rfl hs
  | createClaim space c => exact absurd rfl hs
  | deleteClaim space name => exact absurd rfl hs
  | setUnschedulable name b => exact (volumes_of_pods (.inl rfl) o).1
  | deletePod space name => exact (volumes_of_pods (.inr rfl) o).1
  | _ => rfl

/-- A disk that a node sees is deleted there. -/
theorem Site.ClusterState.deleteDisk_of_lists {c : ClusterState} {region node storage volid : String}
    (h : c.Lists node storage volid) : (c.answer region (.deleteDisk node storage volid)).1 = .ok () := by
  have listed : (c.disksOn node storage).any (fun v => v.volid = volid) = true := by
    simpa using lists_iff.mp h
  simp only [answer, if_pos listed]

/-- A node sees the disk of a volume, or one of its name. -/
def VolumeHandle.IsOn (v : VolumeHandle) (node : String) (s : Site) : Prop :=
  s.InRegion v.region fun c => c.Lists node v.storage v.volid

/-- At a site a claim names a volume of a driver, and the volume has a record, which looking at the claim leaves. -/
structure BoundClaim.IsNamed (bound : BoundClaim) (driver space name : String) (s : Site) : Prop where
  claim : s.orchestrator.claims (space, name) = some bound.claim
  volume : s.orchestrator.volumes bound.volume.name = some bound.volume
  told : bound.Told driver bound.volume.name
  settled : (s.orchestrator.lookAtClaim space name).2.volumes bound.volume.name = some bound.volume

/-- A claim that is bound names its volume. -/
theorem BoundClaim.IsAt.isNamed {bound : BoundClaim} {driver space name : String} {s : Site}
    (h : bound.IsAt driver space name s) : bound.IsNamed driver space name s := by
  refine ⟨h.claim, h.volume, h.told, ?_⟩
  obtain ⟨looks, e⟩ := Site.OrchestratorState.lookAtClaim_of_claimed h.claim h.told.named h.volume h.claimed
  rw [e]
  exact h.volume

namespace Maintenance

/-! ## How a volume stands -/

/-- At a prompt site a volume has a record, or none, its disk is on some nodes, and the deciding calls went so. -/
structure Stands (handle : VolumeHandle) (name : String) (nodes : List String) (record : Option VolumeRecord)
    (past : History) (u : Site × History) : Prop where
  prompt : u.1.Prompt
  record : u.1.orchestrator.volumes name = record
  disks : ∀ node ∈ nodes, handle.IsOn node u.1
  deciding : u.2.deciding = past

namespace Stands

variable {handle : VolumeHandle} {name : String} {nodes : List String} {record : Option VolumeRecord} {past : History}
  {u v : Site × History}

/-- A call that is answered is the latest of the deciding calls, if it is one. -/
theorem deciding_step {call : Call} {x : call.Answer} (h : u.2.deciding = past) (e : Site.recorded u call x v) :
    v.2.deciding = if call.decides then ⟨call, x⟩ :: past else past := by
  rw [(Site.recorded_eq.mp e).2, History.deciding_cons, h]

/-- Disks stay where they are unless one is deleted. -/
theorem disks_step {call : Call} {x : call.Answer} (h : Stands handle name nodes record past u)
    (hd : call.deletesDisk = false) (e : Site.recorded u call x v) :
    ∀ node ∈ nodes, handle.IsOn node v.1 := by
  intro node mem
  refine (h.disks node mem).answer (Site.recorded_eq.mp e).1 (fun _ h => h) ?_
  rintro r c rfl listed
  refine Site.ClusterState.lists_answer ?_ listed
  rintro node' storage' volid' rfl
  cases hd

/-- An idle call leaves a volume as it stands. -/
theorem step {call : Call} {x : call.Answer} (h : Stands handle name nodes record past u) (hc : call.isIdle)
    (e : Site.recorded u call x v) : Stands handle name nodes record past v := by
  obtain ⟨answered, -⟩ := Site.recorded_eq.mp e
  refine ⟨Site.prompt_answer h.prompt answered, ?_, h.disks_step ?_ e, ?_⟩
  · refine Site.answer_keeps_orchestrator (K := fun o => o.volumes name = record) answered h.record ?_
    rintro r rfl
    rw [Site.OrchestratorState.volumes_of_idle hc.1 hc.2]
    exact h.record
  · cases call with
    | cluster region r => exact hc
    | _ => rfl
  · rw [deciding_step h.deciding e, Call.decides_of_isIdle hc]
    rfl

/-- A service that makes idle calls only leaves a volume as it stands. -/
theorem idle {α : Type} {service : Service α} (h : service.Asks Call.isIdle)
    (hu : Stands handle name nodes record past u) : Ensures Site.recorded (fun _ _ => True) service
      (fun _ v => Stands handle name nodes record past v) (fun _ v => Stands handle name nodes record past v) u :=
  h.ensures (K := Stands handle name nodes record past) Site.remembers_recorded (fun _ _ _ _ => trivial)
    (fun _ _ _ _ hc hu e => hu.step hc e) hu

/-- A request to the orchestrator fails and leaves the record, or makes of it what the orchestrator makes of it. -/
theorem orchestrator {r : Request} {x : Except Failure r.Answer} (h : Stands handle name nodes record past u)
    (e : Site.recorded u (.orchestrator r) x v) : ∃ after,
      Stands handle name nodes after
        (if (Call.orchestrator r).decides then Exchange.orchestrator r x :: past else past) v ∧
      ((∃ f, x = .error f ∧ after = record) ∨
        x = (u.1.orchestrator.answer r).1 ∧ after = (u.1.orchestrator.answer r).2.volumes name) := by
  obtain ⟨answered, -⟩ := Site.recorded_eq.mp e
  have stands (after : Option VolumeRecord) (now : v.1.orchestrator.volumes name = after) :
      Stands handle name nodes after
        (if (Call.orchestrator r).decides then Exchange.orchestrator r x :: past else past) v :=
    ⟨Site.prompt_answer h.prompt answered, now, h.disks_step rfl e, deciding_step h.deciding e⟩
  rcases Site.orchestrator_prompt h.prompt answered with ⟨f, failed, same⟩ | ⟨done, same⟩
  · exact ⟨record, stands record (same ▸ h.record), .inl ⟨f, failed, rfl⟩⟩
  · exact ⟨_, stands _ (congrArg (·.volumes name) same), .inr ⟨done, rfl⟩⟩

/-- The record of a volume is read as it stands. -/
theorem read (h : Stands handle name nodes record past u) :
    Ensures Site.recorded (fun _ _ => True) (volumeRecord name)
      (fun volume v => record = some volume ∧ Stands handle name nodes record past v)
      (fun _ v => Stands handle name nodes record past v) u := by
  unfold volumeRecord
  refine ensures_bind.mpr (ensures_orchestrator.mpr ⟨trivial, fun x v e => ?_⟩)
  obtain ⟨after, hv, ⟨f, rfl, rfl⟩ | ⟨rfl, rfl⟩⟩ := h.orchestrator e
  · exact hv
  · simp only [Site.OrchestratorState.answer, h.record] at hv ⊢
    exact ensures_require.mpr ⟨fun _ told => ⟨told, hv⟩, fun _ => hv⟩

/-- A record that is there is replaced, or it stays. -/
theorem replace (volume : VolumeRecord) (h : Stands handle volume.name nodes record past u)
    (there : record.isSome = true) :
    Ensures Site.recorded (fun _ _ => True) (Service.orchestrator (.replaceVolume volume))
      (fun _ v => Stands handle volume.name nodes (some volume) past v)
      (fun _ v => Stands handle volume.name nodes record past v) u := by
  have known : (u.1.orchestrator.volumes volume.name).isSome = true := by
    rw [h.record]
    exact there
  refine ensures_orchestrator.mpr ⟨trivial, fun x v e => ?_⟩
  obtain ⟨after, hv, ⟨f, rfl, rfl⟩ | ⟨rfl, rfl⟩⟩ := h.orchestrator e
  · exact hv
  · simp only [Site.OrchestratorState.answer, if_pos known, Keyed.put_self] at hv ⊢
    exact hv

/-- A record is deleted, or it stays, and the answer tells. -/
theorem delete (h : Stands handle name nodes record past u) :
    Ensures Site.recorded (fun _ _ => True) (Service.orchestrator (.deleteVolume name))
      (fun _ v => Stands handle name nodes none (Exchange.orchestrator (.deleteVolume name) (.ok ()) :: past) v)
      (fun f v => Stands handle name nodes record (Exchange.orchestrator (.deleteVolume name) (.error f) :: past) v)
      u := by
  refine ensures_orchestrator.mpr ⟨trivial, fun x v e => ?_⟩
  obtain ⟨after, hv, ⟨f, rfl, rfl⟩ | ⟨rfl, rfl⟩⟩ := h.orchestrator e
  · exact hv
  · simp only [Site.OrchestratorState.answer, Keyed.put_self] at hv ⊢
    exact hv

/-- A record that is not there is made, or there is still none, and the answer tells. -/
theorem create (volume : VolumeRecord) (h : Stands handle volume.name nodes none past u) :
    Ensures Site.recorded (fun _ _ => True) (Service.orchestrator (.createVolume volume))
      (fun _ v => Stands handle volume.name nodes (some volume)
        (Exchange.orchestrator (.createVolume volume) (.ok volume) :: past) v)
      (fun f v => Stands handle volume.name nodes none
        (Exchange.orchestrator (.createVolume volume) (.error f) :: past) v) u := by
  have absent : ¬(u.1.orchestrator.volumes volume.name).isSome = true := by
    rw [h.record]
    exact Bool.false_ne_true
  refine ensures_orchestrator.mpr ⟨trivial, fun x v e => ?_⟩
  obtain ⟨after, hv, ⟨f, rfl, rfl⟩ | ⟨rfl, rfl⟩⟩ := h.orchestrator e
  · exact hv
  · simp only [Site.OrchestratorState.answer, if_neg absent, Keyed.put_self] at hv ⊢
    exact hv

/-- The source is deleted, or it stays and the answer tells. -/
theorem deleteSource {node : String} (h : Stands handle name nodes record past u) (mem : node ∈ nodes) :
    Ensures Site.recorded (fun _ _ => True)
      (Service.cluster handle.region (.deleteDisk node handle.storage handle.volid)) (fun _ _ => True)
      (fun f v => Stands handle name nodes record
        (Exchange.cluster handle.region (.deleteDisk node handle.storage handle.volid) (.error f) :: past) v) u := by
  refine ensures_cluster.mpr ⟨trivial, fun x v e => ?_⟩
  obtain ⟨answered, -⟩ := Site.recorded_eq.mp e
  rcases Site.cluster_prompt h.prompt answered with ⟨f, rfl, same⟩ | ⟨c, hc, rfl, -⟩
  · refine ⟨Site.prompt_answer h.prompt answered, ?_, fun node' mem' => ?_, deciding_step h.deciding e⟩
    · rw [Site.orchestrator_cluster answered]
      exact h.record
    · unfold VolumeHandle.IsOn Site.InRegion
      rw [same]
      exact h.disks node' mem'
  · obtain ⟨c', hc', listed⟩ := h.disks node mem
    obtain rfl : c' = c := Option.some.inj (hc'.symm.trans hc)
    rw [Site.ClusterState.deleteDisk_of_lists listed]
    trivial

end Stands

/-! ## Steps that decide nothing -/

section

variable (m : Maintenance) {handle : VolumeHandle} {name target : String} {nodes : List String}
  {record : Option VolumeRecord} {volume : VolumeRecord} {past : History} {u : Site × History}

/-- A disk that was copied is on the target too. -/
theorem copyDisk_stands (timeout : Nat) (h : Stands handle name nodes record past u) :
    Ensures Site.recorded (fun _ _ => True) (m.copyDisk handle target timeout)
      (fun _ v => Stands handle name (target :: nodes) record past v)
      (fun _ v => Stands handle name nodes record past v) u := by
  unfold copyDisk
  refine ensures_bind.mpr ((Stands.idle (asks_cluster (Call.isIdle_cluster rfl)) h).post (fun task v hv => ?_)
    fun _ _ h => h)
  have waits : (Fleet.awaitTask handle.region handle.zone task timeout m.timing.pause).Asks Call.isIdle :=
    Fleet.awaitTask_asks_of timeout rfl trivial trivial
  refine ensures_bind.mpr ((Stands.idle waits hv).post (fun _ v hv => ?_) fun _ _ h => h)
  refine ensures_bind.mpr (ensures_cluster.mpr ⟨trivial, fun x w e => ?_⟩)
  have hw := hv.step (Call.isIdle_cluster rfl) e
  cases x with
  | error f => exact hw
  | ok content =>
    simp only [onOutcome]
    split
    · rename_i listed
      have there := Site.inRegion_storageContent (Site.recorded_eq.mp e).1 (by simpa using listed)
      exact ⟨hw.prompt, hw.record, List.forall_mem_cons.mpr ⟨there, hw.disks⟩, hw.deciding⟩
    · exact hw

/-- The volume has its record, or it is retained and has the rest of its record. -/
def IsKept (volume : VolumeRecord) (record : Option VolumeRecord) : Prop :=
  record = some volume ∨ record = some (volume.withPolicy retained)

/-- Retaining a volume tells its policy, and changes nothing else. -/
theorem retain_stands {policy : String} (h : Stands handle volume.name nodes (some volume) past u)
    (hp : volume.policy? = some policy) :
    Ensures Site.recorded (fun _ _ => True) (retain volume.name)
      (fun told v => policy = told ∧ ∃ kept, IsKept volume (some kept) ∧
        Stands handle volume.name nodes (some kept) past v)
      (fun _ v => ∃ kept, IsKept volume (some kept) ∧ Stands handle volume.name nodes (some kept) past v) u := by
  have told : (volume.spec.bind (·.reclaimPolicy)).getD impliedPolicy = policy :=
    VolumeRecord.policy_of_policy? hp
  unfold retain
  refine ensures_bind.mpr (h.read.post ?_ fun _ v hv => ⟨volume, .inl rfl, hv⟩)
  rintro _ v ⟨⟨⟩, hv⟩
  simp only [told]
  split
  · exact ⟨rfl, volume, .inl rfl, hv⟩
  · rename_i other
    have off : ¬(volume.spec.getD {}).reclaimPolicy = some retained := by
      rw [← VolumeRecord.policy?_eq, hp]
      exact fun same => other (Option.some.inj same)
    unfold setPolicy
    refine ensures_bind.mpr (ensures_bind.mpr (hv.read.post ?_ fun _ w hw => ⟨volume, .inl rfl, hw⟩))
    rintro _ w ⟨⟨⟩, hw⟩
    simp only [if_neg off]
    have replaced := Stands.replace (volume.withPolicy retained) hw rfl
    exact ensures_bind.mpr (replaced.post (fun _ z hz => ⟨rfl, _, .inr rfl, hz⟩) fun _ z hz => ⟨_, .inl rfl, hz⟩)

/-! ## Standstills -/

/-- Where a migration that fails can come to a standstill. -/
inductive Standstill
  /-- The volume is what it was, but for the policy under which it is retained. -/
  | inPlace
  /-- The record of the volume is gone. -/
  | unrecorded
  /-- The volume has moved, and its source is still there. -/
  | doubled
  deriving DecidableEq, Repr

/-- Two nodes have the disk of a volume. -/
def OnBoth (handle : VolumeHandle) (target : String) (s : Site) : Prop :=
  handle.zone ≠ target ∧ handle.IsOn handle.zone s ∧ handle.IsOn target s

/-- What is found at a standstill, and which failure is told. -/
def Standstill.Holds (driver : String) (bound : BoundClaim) (target : String) (f : Failure) (s : Site) :
    Standstill → Prop
  | .inPlace => IsKept bound.volume (s.orchestrator.volumes bound.volume.name) ∧ bound.handle.IsOn bound.handle.zone s
  | .unrecorded => s.orchestrator.volumes bound.volume.name = none ∧ OnBoth bound.handle target s
  | .doubled => (∃ record, s.orchestrator.volumes bound.volume.name = some record ∧
      bound.volume.Readdressed driver { bound.handle with zone := target } record) ∧ OnBoth bound.handle target s ∧
      ∃ cause, f = sourceRemains bound.handle target cause

/-- Which call has failed when a migration comes to a standstill. In place no record was deleted; otherwise the record
could not be made anew, or the source could not be deleted. -/
def Standstill.ToldBy (bound : BoundClaim) (target : String) (f : Failure) (past : History) : Standstill → Prop
  | .inPlace => Exchange.orchestrator (.deleteVolume bound.volume.name) (.ok ()) ∉ past
  | .unrecorded => ∃ v, Exchange.orchestrator (.createVolume v) (.error f) ∈ past
  | .doubled => ∃ cause, f = sourceRemains bound.handle target cause ∧ Exchange.cluster bound.handle.region
      (.deleteDisk bound.handle.zone bound.handle.storage bound.handle.volid) (.error cause) ∈ past

/-- The deciding calls tell where a migration came to a standstill. -/
theorem Standstill.toldBy_deciding (k : Standstill) {bound : BoundClaim} {f : Failure} :
    k.ToldBy bound target f past.deciding ↔ k.ToldBy bound target f past := by
  cases k with
  | inPlace => exact not_congr (History.mem_deciding rfl)
  | unrecorded => exact exists_congr fun _ => History.mem_deciding rfl
  | doubled => exact exists_congr fun _ => and_congr_right fun _ => History.mem_deciding rfl

/-- The end of a migration that failed, by how the volume stands then. -/
inductive Ended (bound : BoundClaim) (target policy : String) (f : Failure) (u : Site × History) : Prop
  | inPlace {nodes : List String} {kept : VolumeRecord} {past : History} (mem : bound.handle.zone ∈ nodes)
    (same : IsKept bound.volume (some kept))
    (early : past = [] ∨ ∃ g, past = [Exchange.orchestrator (.deleteVolume bound.volume.name) (.error g)])
    (stands : Stands bound.handle bound.volume.name nodes (some kept) past u)
  | unrecorded {v : VolumeRecord} (elsewhere : bound.handle.zone ≠ target)
    (stands : Stands bound.handle bound.volume.name [target, bound.handle.zone] none
      [Exchange.orchestrator (.createVolume v) (.error f),
        Exchange.orchestrator (.deleteVolume bound.volume.name) (.ok ())] u)
  | doubled {v : VolumeRecord} {cause : Failure} (elsewhere : bound.handle.zone ≠ target)
    (told : f = sourceRemains bound.handle target cause)
    (stands : Stands bound.handle bound.volume.name [target, bound.handle.zone]
      (some (bound.volume.relocated { bound.handle with zone := target } target policy))
      [Exchange.cluster bound.handle.region
          (.deleteDisk bound.handle.zone bound.handle.storage bound.handle.volid) (.error cause),
        Exchange.orchestrator (.createVolume v) (.ok v),
        Exchange.orchestrator (.deleteVolume bound.volume.name) (.ok ())] u)

section

variable {bound : BoundClaim} {policy driver : String} {f : Failure} {v : Site × History}

/-- Idle calls leave a migration where it ended. -/
theorem Ended.step {call : Call} {x : call.Answer} (h : Ended bound target policy f u) (hc : call.isIdle)
    (e : Site.recorded u call x v) : Ended bound target policy f v := by
  cases h with
  | inPlace mem same early stands => exact .inPlace mem same early (stands.step hc e)
  | unrecorded elsewhere stands => exact .unrecorded elsewhere (stands.step hc e)
  | doubled elsewhere told stands => exact .doubled elsewhere told (stands.step hc e)

/-- A record that is kept does not tell the handle of another node. -/
theorem IsKept.not_readdressed {record : VolumeRecord} (h : IsKept bound.volume (some record))
    (told : bound.Told driver bound.volume.name) (elsewhere : bound.handle.zone ≠ target) :
    ¬bound.volume.Readdressed driver { bound.handle with zone := target } record := by
  intro moved
  obtain ⟨source, own, read⟩ := told.parsed
  obtain ⟨source', own', text⟩ := moved.source
  have same : record.sourceOf? driver = bound.volume.sourceOf? driver := by
    rcases h with h | h
    · rw [Option.some.inj h]
    · rw [Option.some.inj h]
      cases hs : bound.volume.spec <;> simp [VolumeRecord.sourceOf?, VolumeRecord.withPolicy, hs]
  rw [same, own] at own'
  obtain rfl := Option.some.inj own'
  exact VolumeHandle.text_ne_of_zone_ne read elsewhere text.symm

/-- What is found after a failure tells one standstill from the others. -/
theorem Standstill.holds_unique {k k' : Standstill} {s : Site} (told : bound.Told driver bound.volume.name)
    (h : k.Holds driver bound target f s) (h' : k'.Holds driver bound target f s) : k = k' := by
  have recorded {record : Option VolumeRecord} (hk : IsKept bound.volume record) : record ≠ none := by
    rintro rfl
    rcases hk with hk | hk <;> cases hk
  have unmoved (hk : Standstill.Holds driver bound target f s .inPlace) :
      ¬Standstill.Holds driver bound target f s .doubled := by
    rintro ⟨⟨record, there, moved⟩, both, -⟩
    exact IsKept.not_readdressed (there ▸ hk.1) told both.1 moved
  cases k with
  | inPlace =>
    cases k' with
    | inPlace => rfl
    | unrecorded => exact absurd h'.1 (recorded h.1)
    | doubled => exact absurd h' (unmoved h)
  | unrecorded =>
    cases k' with
    | inPlace => exact absurd h.1 (recorded h'.1)
    | unrecorded => rfl
    | doubled =>
      obtain ⟨record, there, -⟩ := h'.1
      exact nomatch h.1.symm.trans there
  | doubled =>
    cases k' with
    | inPlace => exact absurd h (unmoved h')
    | unrecorded =>
      obtain ⟨record, there, -⟩ := h.1
      exact nomatch h'.1.symm.trans there
    | doubled => rfl

/-- A migration has ended at a standstill, and at no other one by what is told of it. -/
theorem Ended.standstill (h : Ended bound target policy f u) (told : bound.Told driver bound.volume.name)
    (hp : bound.volume.policy? = some policy) :
    ∃ k : Standstill, k.Holds driver bound target f u.1 ∧ ∀ k' : Standstill, k'.ToldBy bound target f u.2 ↔ k' = k := by
  cases h with
  | inPlace mem same early stands =>
    refine ⟨.inPlace, ⟨stands.record ▸ same, stands.disks _ mem⟩, fun k' => ?_⟩
    rw [← k'.toldBy_deciding, stands.deciding]
    rcases early with rfl | ⟨g, rfl⟩ <;> cases k' <;> grind [Standstill.ToldBy]
  | unrecorded elsewhere stands =>
    have both : OnBoth bound.handle target u.1 := ⟨elsewhere, stands.disks _ (by simp), stands.disks _ (by simp)⟩
    refine ⟨.unrecorded, ⟨stands.record, both⟩, fun k' => ?_⟩
    rw [← k'.toldBy_deciding, stands.deciding]
    cases k' <;> grind [Standstill.ToldBy]
  | doubled elsewhere same stands =>
    have both : OnBoth bound.handle target u.1 := ⟨elsewhere, stands.disks _ (by simp), stands.disks _ (by simp)⟩
    obtain ⟨source, own, -⟩ := told.parsed
    have record := VolumeRecord.readdressed_relocated { bound.handle with zone := target } target own hp
    refine ⟨.doubled, ⟨⟨_, stands.record, record⟩, both, _, same⟩, fun k' => ?_⟩
    rw [← k'.toldBy_deciding, stands.deciding]
    cases k' <;> grind [Standstill.ToldBy]

end

end

/-! ## The run of a migration -/

section

variable (m : Maintenance) {bound : BoundClaim} {target policy driver space claim : String} {s : Site} {past : History}
  {nodes : List String} {u : Site × History}

/-- A record that could not be written anew is kept, or it is gone, and the answers tell. -/
theorem recordAnew_stands {v : VolumeHandle} {volume : VolumeRecord} (handle : VolumeHandle) (zone : String)
    (h : Stands v volume.name nodes (some volume) past u) (hp : volume.policy? = some policy) :
    Ensures Site.recorded (fun _ _ => True) (recordAnew volume.name handle zone)
      (fun _ w => ∃ made, Stands v volume.name nodes (some (volume.relocated handle zone policy))
        (Exchange.orchestrator (.createVolume made) (.ok made) ::
          Exchange.orchestrator (.deleteVolume volume.name) (.ok ()) :: past) w)
      (fun f w => (∃ kept now, IsKept volume (some kept) ∧
          (now = past ∨ ∃ g, now = Exchange.orchestrator (.deleteVolume volume.name) (.error g) :: past) ∧
          Stands v volume.name nodes (some kept) now w) ∨
        ∃ made, Stands v volume.name nodes none
          (Exchange.orchestrator (.createVolume made) (.error f) ::
            Exchange.orchestrator (.deleteVolume volume.name) (.ok ()) :: past) w) u := by
  unfold recordAnew
  refine ensures_bind.mpr ((retain_stands h hp).post ?_ fun _ w => ?_)
  · rintro _ w ⟨rfl, kept, same, hw⟩
    have renewed : kept.relocated handle zone policy = volume.relocated handle zone policy := by
      rcases same with e | e
      · rw [Option.some.inj e]
      · rw [Option.some.inj e, relocated_withPolicy volume handle zone policy retained
          (VolumeRecord.isSome_spec_of_policy? hp)]
    refine ensures_bind.mpr (hw.read.post ?_ fun _ w hw => .inl ⟨kept, past, same, .inl rfl, hw⟩)
    rintro _ w ⟨⟨⟩, hw⟩
    refine ensures_bind.mpr (hw.delete.post (fun _ w hw => ?_) fun g w hw =>
      .inl ⟨kept, _, same, .inr ⟨g, rfl⟩, hw⟩)
    rw [renewed]
    have created := Stands.create (volume.relocated handle zone policy) hw
    exact ensures_bind.mpr (created.post (fun _ w hw => ⟨_, hw⟩) fun f w hw => .inr ⟨_, hw⟩)
  · rintro ⟨kept, same, hw⟩
    exact .inl ⟨kept, past, same, .inl rfl, hw⟩

/-- A relocation that fails leaves its volume at a standstill. -/
theorem relocate_ended (timeout : Nat) (h : Stands bound.handle bound.volume.name [bound.handle.zone]
      (some bound.volume) [] u)
    (hp : bound.volume.policy? = some policy) (elsewhere : bound.handle.zone ≠ target) :
    Ensures Site.recorded (fun _ _ => True) (m.relocate bound target timeout) (fun _ _ => True)
      (fun f v => Ended bound target policy f v) u := by
  have early {nodes : List String} (mem : bound.handle.zone ∈ nodes) (f : Failure) (v : Site × History)
      (hv : Stands bound.handle bound.volume.name nodes (some bound.volume) [] v) :
      Ended bound target policy f v := .inPlace mem (.inl rfl) (.inl rfl) hv
  have waits : (m.awaitDetached bound.handle).Asks Call.isIdle :=
    m.awaitDetached_asks_of rfl (fun _ _ => rfl) trivial trivial
  unfold relocate
  refine ensures_bind.mpr ((Stands.idle waits h).post (fun _ v hv => ?_) (early (by simp)))
  refine ensures_bind.mpr ((m.copyDisk_stands timeout hv).post (fun _ v hv => ?_) (early (by simp)))
  refine ensures_bind.mpr ((recordAnew_stands _ target hv hp).post ?_ ?_)
  · rintro _ v ⟨made, hv⟩
    have mem : bound.handle.zone ∈ [target, bound.handle.zone] := by simp
    refine ensures_rewording.mpr ((hv.deleteSource mem).post (fun _ _ _ => trivial) fun cause w hw => ?_)
    exact Ended.doubled elsewhere rfl hw
  · rintro f v (⟨kept, now, same, now_eq, hv⟩ | ⟨made, hv⟩)
    · exact .inPlace (by simp) same now_eq hv
    · exact .unrecorded elsewhere hv

/-- The claim is found with its volume, and the volume stands as it did. -/
theorem boundClaim_stands (hp : s.Prompt) (h : bound.IsNamed driver space claim s)
    (source : bound.handle.IsOn bound.handle.zone s) :
    Ensures Site.recorded (fun _ _ => True) (m.boundClaim space claim)
      (fun b v => b.volume = bound.volume ∧ b.handle = bound.handle ∧
        Stands bound.handle bound.volume.name [bound.handle.zone] (some bound.volume) [] v)
      (fun _ v => Stands bound.handle bound.volume.name [bound.handle.zone] (some bound.volume) [] v) (s, []) := by
  have start : Stands bound.handle bound.volume.name [bound.handle.zone] (some bound.volume) [] (s, []) :=
    ⟨hp, h.volume, by simpa using source, rfl⟩
  obtain ⟨source, own, read⟩ := h.told.parsed
  unfold boundClaim
  refine ensures_bind.mpr (ensures_orchestrator.mpr ⟨trivial, fun x v e => ?_⟩)
  obtain ⟨after, hv, ⟨f, rfl, rfl⟩ | ⟨rfl, looked⟩⟩ := start.orchestrator e
  · exact hv
  obtain rfl : after = some bound.volume := looked.trans h.settled
  refine ensures_bind.mpr (ensures_require.mpr ⟨fun c hc => ?_, fun _ => hv⟩)
  have named : c.volumeName? = some bound.volume.name := by
    rw [Site.OrchestratorState.volumeName?_lookAtClaim hc, Site.OrchestratorState.wanted, h.claim]
    exact h.told.named
  rw [named]
  refine ensures_bind.mpr (ensures_require.mpr ⟨fun n hn => ?_, fun _ => hv⟩)
  obtain rfl := Option.some.inj hn
  refine ensures_bind.mpr (hv.read.post ?_ fun _ _ hw => hw)
  rintro _ w ⟨⟨⟩, hw⟩
  refine ensures_bind.mpr (ensures_require.mpr ⟨fun d hd => ?_, fun _ => hw⟩)
  -- whichever driver is asked for, a volume has one source
  have there := (Option.filter_eq_some_iff.mp own).1
  obtain rfl := Option.some.inj (there.symm.trans (Option.filter_eq_some_iff.mp hd).1)
  rw [read]
  exact ⟨rfl, rfl, hw⟩

/-- A drain makes idle calls only. -/
theorem drain_idle (space : String) (claims : List String) (force : Bool) :
    (m.drain space claims force).Asks Call.isIdle := by
  have lists : (Call.orchestrator (.pods space)).isIdle := ⟨rfl, nofun⟩
  rw [m.drain_eq]
  refine (consumers_asks_of claims lists).bind fun pods => ?_
  exact m.drainFrom_asks_of claims force lists (fun _ _ => ⟨rfl, nofun⟩) (fun _ => trivial)
    (fun _ => trivial) ⟨rfl, nofun⟩ Call.isIdle_mark

/-- A migration that fails comes to a standstill. -/
theorem migrate_ended (target : String) (force : Bool) (timeout : Nat) (hp : s.Prompt)
    (h : bound.IsNamed driver space claim s) (policies : bound.volume.policy? = some policy)
    (source : bound.handle.IsOn bound.handle.zone s) :
    Ensures Site.recorded (fun _ _ => True) (m.migrate space claim target force timeout) (fun _ _ => True)
      (fun f v => Ended bound target policy f v) (s, []) := by
  have early (f : Failure) (v : Site × History)
      (hv : Stands bound.handle bound.volume.name [bound.handle.zone] (some bound.volume) [] v) :
      Ended bound target policy f v := .inPlace (by simp) (.inl rfl) (.inl rfl) hv
  unfold migrate
  refine ensures_bind.mpr ((m.boundClaim_stands hp h source).post ?_ early)
  rintro ⟨found, _, _⟩ v ⟨⟨⟩, ⟨⟩, hv⟩
  simp only
  split
  · exact early _ _ hv
  split
  · trivial
  rename_i elsewhere
  split
  · exact early _ _ hv
  refine ensures_bind.mpr ((Stands.idle (m.requirePrivileged_asks_of _) hv).post (fun _ v hv => ?_) early)
  have looks : (Fleet.isOnline bound.handle.region target).Asks Call.isIdle :=
    (asks_cluster (Call.isIdle_cluster rfl)).bind fun _ => asks_pure
  refine ensures_bind.mpr ((Stands.idle looks hv).post (fun online v hv => ?_) early)
  split
  · refine m.ensures_whileDrained space [claim] force
      ((Stands.idle (m.drain_idle space [claim] force) hv).post (fun _ _ h => h) early)
      (fun _ hw => m.relocate_ended timeout hw policies elsewhere) fun o w node hw => ⟨trivial, fun x z e => ?_⟩
    cases o with
    | ok _ => trivial
    | error f => exact hw.step (Call.isIdle_mark node false) e
  · exact early _ _ hv

/-- **Where a migration that fails comes to a standstill.** At a prompt site, of a claim whose volume has a policy and a
disk on the node of its handle: the volume is what it was but perhaps retained, with its disk where it was; or it has no
record, and both nodes have the disk; or it has moved under its policy, both nodes have the disk, and the failure tells
that the source remains. It is always one of the three, and it is told by the call that failed: one before the record
was gone, the one that makes it anew, or the one that deletes the source. -/
theorem migrate_standstill {f : Failure} {t : Site} (force : Bool) (timeout : Nat) (hp : s.Prompt)
    (h : bound.IsNamed driver space claim s) (policies : bound.volume.policy? = some policy)
    (source : bound.handle.IsOn bound.handle.zone s)
    (hrun : Site.run (m.migrate space claim target force timeout) s = (.error f, t)) :
    (∃! k : Standstill, k.Holds driver bound target f t) ∧
      ∀ k : Standstill, k.Holds driver bound target f t ↔
        k.ToldBy bound target f (Site.exchanges (m.migrate space claim target force timeout) s) := by
  have ended := Site.run_exchanges_ended (m.migrate_ended target force timeout hp h policies source)
  rw [hrun] at ended
  obtain ⟨k, holds, told⟩ := Ended.standstill ended h.told policies
  have only (k' : Standstill) (h' : k'.Holds driver bound target f t) : k' = k :=
    Standstill.holds_unique h.told h' holds
  refine ⟨⟨k, holds, only⟩, fun k' => ⟨fun h' => (told k').mpr (only k' h'), fun h' => ?_⟩⟩
  rw [(told k').mp h']
  exact holds

end

namespace TwoNodes

/-- The region while no volume can be recorded. -/
def unwilling : Site :=
  { occupied with faults := [{
      concerns := fun call => match call with
        | .orchestrator (.createVolume _) => true
        | _ => false
      failure := .internal "refused" }] }

theorem unwilling_prompt : unwilling.Prompt := by
  intro fault mem
  obtain rfl := List.mem_singleton.mp mem
  rfl

theorem bound_isOn : bound.handle.IsOn bound.handle.zone unwilling :=
  ⟨cluster false, rfl, ⟨"z1", "data", { volid := "data:vm-9999-pvc-1" }⟩, List.mem_singleton_self _, by decide,
    by decide⟩

end TwoNodes

/-- A volume that is moved while no volume can be recorded loses its record, and both nodes have its disk. -/
theorem migrate_standstill_unrecorded :
    ∃ f t, Site.run (TwoNodes.driver.migrate "default" "data" "z2" true 10000) TwoNodes.unwilling = (.error f, t) ∧
      Standstill.Holds "d" TwoNodes.bound "z2" f t .unrecorded ∧
      Standstill.ToldBy TwoNodes.bound "z2" f
        (Site.exchanges (TwoNodes.driver.migrate "default" "data" "z2" true 10000) TwoNodes.unwilling) .unrecorded := by
  have ended : (Site.run (TwoNodes.driver.migrate "default" "data" "z2" true 10000) TwoNodes.unwilling).1.isOk = false ∧
      ((Site.run (TwoNodes.driver.migrate "default" "data" "z2" true 10000)
        TwoNodes.unwilling).2.orchestrator.volumes "pvc-1").isNone = true := by decide +kernel
  have named : TwoNodes.bound.IsNamed "d" "default" "data" TwoNodes.unwilling :=
    BoundClaim.IsAt.isNamed ⟨rfl, rfl, TwoNodes.bound_isAt.told, rfl⟩
  cases hrun : Site.run (TwoNodes.driver.migrate "default" "data" "z2" true 10000) TwoNodes.unwilling with
  | mk outcome t =>
    rw [hrun] at ended
    obtain ⟨failed, unrecorded⟩ := ended
    have gone : t.orchestrator.volumes TwoNodes.bound.volume.name = none := Option.isNone_iff_eq_none.mp unrecorded
    cases outcome with
    | ok _ => cases failed
    | error f =>
      obtain ⟨⟨k, holds, -⟩, told⟩ := migrate_standstill TwoNodes.driver true 10000 TwoNodes.unwilling_prompt named rfl
        TwoNodes.bound_isOn hrun
      cases k with
      | unrecorded => exact ⟨f, t, rfl, holds, (told _).mp holds⟩
      | inPlace =>
        obtain ⟨kept | kept, -⟩ := holds <;> exact nomatch gone.symm.trans kept
      | doubled =>
        obtain ⟨⟨record, there, -⟩, -⟩ := holds
        exact nomatch gone.symm.trans there

end Maintenance

end ClusterVolumes
