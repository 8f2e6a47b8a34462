import ClusterVolumes.Proofs.Maintenance.MoveSteps
import ClusterVolumes.Proofs.Maintenance.Footprints
import ClusterVolumes.Proofs.Site.Faultless

/-!
# What a relocation brings about

At a site without faults, on a storage that nodes do not share, a relocation that ends well has moved one disk and
recorded its volume anew, and nothing else (`relocate_relocated`). The steps are followed in turn: the copy of the
disk is the only one that comes (`copyDisk_copied`), the record is under the handle of the copy with all else as it
was (`recordAnew_recorded`), and the source is the only disk that goes.
-/

namespace ClusterVolumes

open Orchestrator
open Service
open Site (ClusterState StoredDisk)

/-! ## Disks that move -/

/-- Is it the disk of a volume on a node? -/
def VolumeHandle.isDiskAt (v : VolumeHandle) (node : String) (d : StoredDisk) : Bool :=
  d.node = node && d.storage = v.storage && d.volume.volid = v.volid

/-- At most one disk, a copy of the disk of a volume on another node; there is one if the cluster makes copies. -/
structure VolumeHandle.Copies (v : VolumeHandle) (target : String) (c : ClusterState) (copied : List StoredDisk) :
    Prop where
  source : ∀ d ∈ copied, ∃ first ∈ c.disks, v.isDiskAt v.zone first = true ∧ d = { first with node := target }
  lands : c.copying.lands = true → copied ≠ []
  single : copied.length ≤ 1

/-- The disk of a volume is on another node than before, and all other disks are where they were. -/
structure DiskMoved (v : VolumeHandle) (target : String) (c c' : ClusterState) : Prop where
  storages : c'.storages = c.storages
  there : c'.Lists target v.storage v.volid
  gone : ¬c'.Lists v.zone v.storage v.volid
  disks : ∃ copied, v.Copies target c copied ∧
    c'.disks = (c.disks.filter fun d => !v.isDiskAt v.zone d) ++ copied

namespace Site.ClusterState

variable {c : ClusterState} {region node storage volid target : String}

/-- On a storage that nodes do not share, each keeps its own disks. -/
theorem diskHome_local (apart : c.isShared storage = false) (node : String) : c.diskHome node storage = node := by
  simp [diskHome, apart]

/-- A disk on a node of a storage that nodes do not share. -/
theorem sees_local {v : VolumeHandle} (apart : c.isShared v.storage = false) (node : String) (d : StoredDisk) :
    (c.sees node v.storage d && decide (d.volume.volid = v.volid)) = v.isDiskAt node d := by
  simp [sees, diskHome_local apart, VolumeHandle.isDiskAt]

theorem disks_putTask (c : ClusterState) (t : Task) : (c.putTask t).disks = c.disks := by
  unfold putTask
  split <;> rfl

/-- A copy that is begun brings copies of the disk, and no others. -/
theorem copies_of_copy {v : VolumeHandle} {task : String} (apart : c.isShared v.storage = false)
    (h : (c.copy region v.zone v.storage v.volid target).1 = .ok task) :
    ∃ copied, v.Copies target c copied ∧
      (c.copy region v.zone v.storage v.volid target).2.disks = c.disks ++ copied := by
  unfold copy at h ⊢
  split at h
  · cases h
  rename_i known
  rw [if_neg known]
  simp only at h ⊢
  split at h
  · rename_i lands
    rw [if_pos lands]
    split at h
    · cases h
    · rename_i volume found
      obtain ⟨first, mem, rfl⟩ := List.mem_map.mp (List.mem_of_find?_eq_some found)
      obtain ⟨mem, seen⟩ := List.mem_filter.mp mem
      obtain ⟨home, same⟩ := sees_iff.mp seen
      have volid : first.volume.volid = v.volid := by simpa using List.find?_some found
      rw [diskHome_local apart] at home
      refine ⟨[{ first with node := target }], ⟨fun d hd => ?_, fun _ => List.cons_ne_nil _ _, Nat.le_refl 1⟩, ?_⟩
      · exact ⟨first, mem, by simp [VolumeHandle.isDiskAt, home, same, volid], List.mem_singleton.mp hd⟩
      · rw [disks_putTask]
        simp only [addDisk, diskHome_local apart, same]
  · rename_i stays
    rw [if_neg stays]
    refine ⟨[], ⟨fun d hd => ?_, fun lands => absurd lands stays, Nat.zero_le 1⟩, ?_⟩
    · cases hd
    · rw [disks_putTask, List.append_nil]

/-- A deletion that succeeds takes away the disks of the name that the node sees. -/
theorem disks_deleteDisk (h : (c.answer region (.deleteDisk node storage volid)).1 = .ok ()) :
    (c.answer region (.deleteDisk node storage volid)).2.disks =
      c.disks.filter fun d => !(c.sees node storage d && decide (d.volume.volid = volid)) := by
  simp only [answer] at h ⊢
  split at h
  · rename_i listed
    rw [if_pos listed]
    rfl
  · cases h

end Site.ClusterState

/-! ## The disks of a region -/

namespace Maintenance

variable {s : Site} {region : String} {c : ClusterState} {disks : List StoredDisk} {u v : Site × History}

/-- A site is another one but for the disks of a region, and no fault is left. -/
structure HasDisks (s : Site) (region : String) (c : ClusterState) (disks : List StoredDisk) (t : Site) : Prop where
  faults : t.faults = []
  orchestrator : t.orchestrator = s.orchestrator
  clusters : ∃ c', t.clusters = s.clusters.put region (some c') ∧ c'.storages = c.storages ∧ c'.disks = disks

/-- The cluster of the region is asked, and afterwards the site is another one but for the disks that are there then. -/
theorem HasDisks.answer {t t' : Site} {r : Hypervisor.Request} {x : Except Failure r.Answer}
    (h : HasDisks s region c disks t) (e : Site.answer (.cluster region r) t = (x, t')) :
    ∃ c' : ClusterState, c'.storages = c.storages ∧ c'.disks = disks ∧ x = (c'.answer region r).1 ∧
      HasDisks s region c (c'.answer region r).2.disks t' := by
  obtain ⟨c', hc', storages, same⟩ := h.clusters
  have there : t.clusters region = some c' := hc' ▸ Keyed.put_self _ _ _
  obtain ⟨hx, ht'⟩ := Site.cluster_faultless h.faults there e
  refine ⟨c', storages, same, hx, Site.answer_faultless h.faults e, ?_, _, ?_, ?_, rfl⟩
  · exact (Site.orchestrator_cluster e).trans h.orchestrator
  · rw [ht', hc', Keyed.put_put]
  · rw [ClusterState.storages_answer, storages]

/-- Asking for the state of tasks and waiting leave the disks. -/
theorem HasDisks.looked {call : Call} {x : call.Answer} (h : HasDisks s region c disks u.1)
    (hc : (∃ node task, call = .cluster region (.taskStatus node task)) ∨ call.looks)
    (e : Site.recorded u call x v) : HasDisks s region c disks v.1 := by
  obtain ⟨answered, -⟩ := Site.recorded_eq.mp e
  rcases hc with ⟨node, task, rfl⟩ | looks
  · obtain ⟨c', -, same, -, after⟩ := h.answer answered
    rw [ClusterState.disks_answer (r := .taskStatus node task) rfl, same] at after
    exact after
  · have same : Site.Unchanged u.1 v.1 := Site.unchanged_of_looks looks h.faults answered
    exact ⟨same.faults, same.orchestrator.trans h.orchestrator, same.clusters ▸ h.clusters⟩

/-- Waiting for a task leaves the disks. -/
theorem HasDisks.awaitTask {node task : String} (timeout pause : Nat) (h : HasDisks s region c disks u.1) :
    Ensures Site.recorded (fun _ _ => True) (Fleet.awaitTask region node task timeout pause)
      (fun _ v => HasDisks s region c disks v.1) (fun _ _ => True) u := by
  have asks : (Fleet.awaitTask region node task timeout pause).Asks fun call =>
      (∃ node' task', call = .cluster region (.taskStatus node' task')) ∨ call.looks :=
    Fleet.awaitTask_asks_of timeout (Or.inl ⟨_, _, rfl⟩) (Or.inr trivial) (Or.inr trivial)
  have kept := asks.ensures (P := fun _ _ => True) (K := fun v => HasDisks s region c disks v.1)
    Site.remembers_recorded (fun _ _ _ _ => trivial) (fun _ _ _ _ hc hv e => hv.looked hc e) h
  exact kept.post (fun _ _ h => h) fun _ _ _ => trivial

/-! ## The steps -/

variable (m : Maintenance) {handle : VolumeHandle} {target : String}

/-- Waiting until no machine has a disk changes nothing. -/
theorem awaitDetached_unchanged (handle : VolumeHandle) (hf : u.1.faults = []) :
    Ensures Site.recorded (fun _ _ => True) (m.awaitDetached handle) (fun _ v => Site.Unchanged u.1 v.1)
      (fun _ v => Site.Unchanged u.1 v.1) u := by
  refine Site.unchanged_of_asks (m.awaitDetached_asks_of (fun _ => rfl) (fun node vmid c => ?_) trivial trivial) hf
  simp only [ClusterState.answer]
  split <;> rfl

/-- A disk that is copied has come to the target, and no other disk has changed. -/
theorem copyDisk_copied (timeout : Nat) (hf : u.1.faults = [])
    (apart : ∀ c, u.1.clusters handle.region = some c → c.isShared handle.storage = false) :
    Ensures Site.recorded (fun _ _ => True) (m.copyDisk handle target timeout)
      (fun _ v => ∃ c copied, u.1.clusters handle.region = some c ∧ handle.Copies target c copied ∧
        HasDisks u.1 handle.region c (c.disks ++ copied) v.1 ∧
        ∃ d ∈ c.disks ++ copied, c.sees target handle.storage d = true ∧ d.volume.volid = handle.volid)
      (fun _ _ => True) u := by
  unfold copyDisk
  refine ensures_bind.mpr (ensures_cluster.mpr ⟨trivial, fun x v e => ?_⟩)
  cases x with
  | error f => trivial
  | ok task =>
    obtain ⟨answered, -⟩ := Site.recorded_eq.mp e
    obtain ⟨c, hc, hx, clusters⟩ := Site.answer_cluster_ok answered
    have begun : (c.copy handle.region handle.zone handle.storage handle.volid target).1 = .ok task := hx
    obtain ⟨copied, copies, disks⟩ := ClusterState.copies_of_copy (apart c hc) begun
    have started : HasDisks u.1 handle.region c (c.disks ++ copied) v.1 :=
      ⟨Site.answer_faultless hf answered, Site.orchestrator_cluster answered, _, clusters,
        ClusterState.storages_answer _ _ c, disks⟩
    refine ensures_bind.mpr ((started.awaitTask timeout m.timing.pause).post (fun _ w hw => ?_) fun _ _ h => h)
    refine ensures_bind.mpr (ensures_cluster.mpr ⟨trivial, fun y z e => ?_⟩)
    cases y with
    | error f => trivial
    | ok content =>
      obtain ⟨answered, -⟩ := Site.recorded_eq.mp e
      obtain ⟨c', storages, same, told, after⟩ := hw.answer answered
      rw [ClusterState.disks_answer (r := .storageContent target handle.storage) rfl, same] at after
      simp only [onOutcome]
      split
      · rename_i listed
        have there : c'.Lists target handle.storage handle.volid := by
          refine ClusterState.lists_of_storageContent told.symm ?_
          simpa using listed
        rw [ClusterState.lists_of_storages_eq storages, same] at there
        exact ⟨c, copied, hc, copies, after, there⟩
      · trivial

/-! ## The record of a volume -/

/-- A site is another one but for the record of one volume, and no fault is left. -/
structure HasRecord (s : Site) (name : String) (record : Option VolumeRecord) (t : Site) : Prop where
  faults : t.faults = []
  clusters : t.clusters = s.clusters
  orchestrator : t.orchestrator = { s.orchestrator with volumes := s.orchestrator.volumes.put name record }

namespace HasRecord

variable {name : String} {record : Option VolumeRecord} {volume : VolumeRecord} {t t' : Site}

/-- At a site without faults every volume has its own record. -/
theorem refl (hf : s.faults = []) (hv : s.orchestrator.volumes name = record) : HasRecord s name record s := by
  refine ⟨hf, rfl, ?_⟩
  rw [Keyed.put_of_eq hv]

theorem volumes (h : HasRecord s name record t) : t.orchestrator.volumes name = record := by
  rw [h.orchestrator]
  exact Keyed.put_self _ _ _

/-- A request that leaves all but the record of the volume. -/
theorem answer {r : Request} {x : Except Failure r.Answer} {after : Option VolumeRecord} (h : HasRecord s name record t)
    (e : Site.answer (.orchestrator r) t = (x, t'))
    (hr : (t.orchestrator.answer r).2 = { t.orchestrator with volumes := t.orchestrator.volumes.put name after }) :
    HasRecord s name after t' := by
  obtain ⟨-, kept⟩ := Site.orchestrator_faultless h.faults e
  refine ⟨Site.answer_faultless h.faults e, (Site.clusters_orchestrator e).trans h.clusters, ?_⟩
  rw [kept, hr, h.orchestrator, Keyed.put_put]

/-- The record of a volume is read. -/
theorem read (h : HasRecord s name (some volume) u.1) :
    Ensures Site.recorded (fun _ _ => True) (volumeRecord name)
      (fun v w => volume = v ∧ HasRecord s name (some volume) w.1) (fun _ _ => True) u := by
  unfold volumeRecord
  refine ensures_bind.mpr (ensures_orchestrator.mpr ⟨trivial, fun x v e => ?_⟩)
  obtain ⟨answered, -⟩ := Site.recorded_eq.mp e
  obtain ⟨rfl, -⟩ := Site.orchestrator_faultless h.faults answered
  have after : HasRecord s name (some volume) v.1 := by
    refine h.answer answered ?_
    rw [Keyed.put_of_eq h.volumes]
    rfl
  refine ensures_require.mpr ⟨fun a there => ⟨?_, after⟩, fun _ => trivial⟩
  exact Option.some.inj (h.volumes.symm.trans there)

/-- The record of a volume is replaced. -/
theorem replace (volume : VolumeRecord) (h : HasRecord s volume.name record u.1) (there : record.isSome = true) :
    Ensures Site.recorded (fun _ _ => True) (Service.orchestrator (.replaceVolume volume))
      (fun _ w => HasRecord s volume.name (some volume) w.1) (fun _ _ => True) u := by
  have known : (u.1.orchestrator.volumes volume.name).isSome = true := by
    rw [h.volumes]
    exact there
  refine ensures_orchestrator.mpr ⟨trivial, fun x v e => ?_⟩
  have after : HasRecord s volume.name (some volume) v.1 := by
    refine h.answer (Site.recorded_eq.mp e).1 ?_
    simp only [Site.OrchestratorState.answer, if_pos known]
  cases x with
  | error f => trivial
  | ok v => exact after

/-- A volume is recorded that is not there. -/
theorem create (volume : VolumeRecord) (h : HasRecord s volume.name none u.1) :
    Ensures Site.recorded (fun _ _ => True) (Service.orchestrator (.createVolume volume))
      (fun _ w => HasRecord s volume.name (some volume) w.1) (fun _ _ => True) u := by
  have absent : ¬(u.1.orchestrator.volumes volume.name).isSome = true := by
    rw [h.volumes]
    exact Bool.false_ne_true
  refine ensures_orchestrator.mpr ⟨trivial, fun x v e => ?_⟩
  have after : HasRecord s volume.name (some volume) v.1 := by
    refine h.answer (Site.recorded_eq.mp e).1 ?_
    simp only [Site.OrchestratorState.answer, if_neg absent]
  cases x with
  | error f => trivial
  | ok v => exact after

/-- The record of a volume is taken away. -/
theorem delete (h : HasRecord s name record u.1) :
    Ensures Site.recorded (fun _ _ => True) (Service.orchestrator (.deleteVolume name))
      (fun _ w => HasRecord s name none w.1) (fun _ _ => True) u := by
  refine ensures_orchestrator.mpr ⟨trivial, fun x v e => ?_⟩
  have after : HasRecord s name none v.1 := h.answer (Site.recorded_eq.mp e).1 rfl
  cases x with
  | error f => trivial
  | ok v => exact after

/-- A volume is put under a policy. -/
theorem setPolicy (policy : String) (h : HasRecord s volume.name (some volume) u.1) :
    Ensures Site.recorded (fun _ _ => True) (Maintenance.setPolicy volume.name policy)
      (fun _ w => HasRecord s volume.name (some (volume.withPolicy policy)) w.1) (fun _ _ => True) u := by
  unfold Maintenance.setPolicy
  refine ensures_bind.mpr (h.read.post ?_ fun _ _ _ => trivial)
  rintro _ w ⟨rfl, hw⟩
  simp only [← VolumeRecord.policy?_eq]
  split
  · rename_i same
    rw [VolumeRecord.withPolicy_of_policy? same]
    exact hw
  · have replaced := HasRecord.replace (volume.withPolicy policy) hw rfl
    exact ensures_bind.mpr (replaced.post (fun _ _ hz => hz) fun _ _ _ => trivial)

/-- A volume is retained, and its policy is told. -/
theorem retain {policy : String} (h : HasRecord s volume.name (some volume) u.1) (hp : volume.policy? = some policy) :
    Ensures Site.recorded (fun _ _ => True) (Maintenance.retain volume.name)
      (fun told w => policy = told ∧ HasRecord s volume.name (some (volume.withPolicy retained)) w.1)
      (fun _ _ => True) u := by
  have told : (volume.spec.bind (·.reclaimPolicy)).getD impliedPolicy = policy :=
    VolumeRecord.policy_of_policy? hp
  unfold Maintenance.retain
  refine ensures_bind.mpr (h.read.post ?_ fun _ _ _ => trivial)
  rintro _ v ⟨rfl, hv⟩
  simp only [told]
  split
  · rename_i same
    rw [VolumeRecord.withPolicy_of_policy? (same ▸ hp)]
    exact ⟨rfl, hv⟩
  · exact ensures_bind.mpr ((hv.setPolicy retained).post (fun _ _ hw => ⟨rfl, hw⟩) fun _ _ _ => trivial)

/-- A volume is taken away from its claim. -/
theorem unclaim (h : HasRecord s volume.name (some volume) u.1) (hs : volume.spec.isSome = true) :
    Ensures Site.recorded (fun _ _ => True) (Maintenance.unclaim volume.name)
      (fun _ w => HasRecord s volume.name (some volume.withoutClaim) w.1) (fun _ _ => True) u := by
  unfold Maintenance.unclaim
  refine ensures_bind.mpr (h.read.post ?_ fun _ _ _ => trivial)
  rintro _ w ⟨rfl, hw⟩
  rw [VolumeRecord.unclaimed_eq hs]
  have replaced := HasRecord.replace volume.withoutClaim hw rfl
  exact ensures_bind.mpr (replaced.post (fun _ _ hz => hz) fun _ _ _ => trivial)

end HasRecord

/-- A record that is put under a handle does not hang on the policy it was under. -/
theorem relocated_withPolicy (volume : VolumeRecord) (handle : VolumeHandle) (zone policy other : String)
    (hs : volume.spec.isSome = true) :
    (volume.withPolicy other).relocated handle zone policy = volume.relocated handle zone policy := by
  obtain ⟨spec, hspec⟩ := Option.isSome_iff_exists.mp hs
  simp [VolumeRecord.relocated, VolumeRecord.withPolicy, VolumeSpec.relocated, hspec]

/-- The record of a volume is under a handle and zone, with all else as it was. -/
theorem recordAnew_recorded {volume : VolumeRecord} {policy : String} (handle : VolumeHandle) (zone : String)
    (h : HasRecord s volume.name (some volume) u.1) (hp : volume.policy? = some policy) :
    Ensures Site.recorded (fun _ _ => True) (recordAnew volume.name handle zone)
      (fun _ w => HasRecord s volume.name (some (volume.relocated handle zone policy)) w.1) (fun _ _ => True) u := by
  unfold recordAnew
  refine ensures_bind.mpr ((h.retain hp).post ?_ fun _ _ _ => trivial)
  rintro _ v ⟨rfl, hv⟩
  refine ensures_bind.mpr (hv.read.post ?_ fun _ _ _ => trivial)
  rintro _ w ⟨rfl, hw⟩
  refine ensures_bind.mpr (hw.delete.post (fun _ z hz => ?_) fun _ _ _ => trivial)
  rw [relocated_withPolicy volume handle zone policy retained (VolumeRecord.isSome_spec_of_policy? hp)]
  have created := HasRecord.create (volume.relocated handle zone policy) hz
  exact ensures_bind.mpr (created.post (fun _ _ hw => hw) fun _ _ _ => trivial)

/-! ## The relocation -/

/-- The disk of a volume has moved to another node, the volume is recorded anew with the handle of the copy, and all
other disks, volumes and claims are the same. -/
structure Relocated (handle : VolumeHandle) (target policy : String) (volume : VolumeRecord) (s t : Site) : Prop where
  faults : t.faults = []
  disks : ∃ c c', s.clusters handle.region = some c ∧ t.clusters = s.clusters.put handle.region (some c') ∧
    DiskMoved handle target c c'
  volumes : t.orchestrator.volumes = s.orchestrator.volumes.put volume.name
    (some (volume.relocated { handle with zone := target } target policy))
  claims : t.orchestrator.claims = s.orchestrator.claims

/-- When the source of a copied disk is gone, the disk has moved. -/
theorem diskMoved_deleteDisk {copied : List StoredDisk} {c' : ClusterState} (apart : c.isShared handle.storage = false)
    (elsewhere : handle.zone ≠ target) (copies : handle.Copies target c copied) (storages : c'.storages = c.storages)
    (same : c'.disks = c.disks ++ copied)
    (there : ∃ d ∈ c.disks ++ copied, c.sees target handle.storage d = true ∧ d.volume.volid = handle.volid)
    (gone : (c'.answer region (.deleteDisk handle.zone handle.storage handle.volid)).1 = .ok ()) :
    DiskMoved handle target c (c'.answer region (.deleteDisk handle.zone handle.storage handle.volid)).2 := by
  have apart' : c'.isShared handle.storage = false := by
    unfold ClusterState.isShared at apart ⊢
    rw [storages]
    exact apart
  have listed : c'.Lists target handle.storage handle.volid := by
    rw [ClusterState.lists_of_storages_eq storages, same]
    exact there
  constructor
  · rw [ClusterState.storages_answer, storages]
  · refine ClusterState.lists_deleteDisk.mpr ⟨listed, fun ⟨_, _, home⟩ => ?_⟩
    exact elsewhere (ClusterState.diskHome_inj apart' home).symm
  · exact fun still => (ClusterState.lists_deleteDisk.mp still).2 ⟨rfl, rfl, rfl⟩
  · have stays : copied.filter (fun d => !handle.isDiskAt handle.zone d) = copied := by
      refine List.filter_eq_self.mpr fun d hd => ?_
      obtain ⟨first, -, -, rfl⟩ := copies.source d hd
      simp [VolumeHandle.isDiskAt, elsewhere.symm]
    refine ⟨copied, copies, ?_⟩
    simp only [ClusterState.disks_deleteDisk gone, ClusterState.sees_local apart', same, List.filter_append, stays]

/-- **What a relocation brings about.** -/
theorem relocate_relocated {bound : BoundClaim} {policy : String} (timeout : Nat) (hf : u.1.faults = [])
    (hv : u.1.orchestrator.volumes bound.volume.name = some bound.volume) (hp : bound.volume.policy? = some policy)
    (apart : ∀ c, u.1.clusters bound.handle.region = some c → c.isShared bound.handle.storage = false)
    (elsewhere : bound.handle.zone ≠ target) :
    Ensures Site.recorded (fun _ _ => True) (m.relocate bound target timeout)
      (fun _ v => Relocated bound.handle target policy bound.volume u.1 v.1) (fun _ _ => True) u := by
  unfold relocate
  refine ensures_bind.mpr ((m.awaitDetached_unchanged bound.handle hf).post (fun _ v same => ?_) fun _ _ _ => trivial)
  rw [← same.clusters] at apart
  refine ensures_bind.mpr ((m.copyDisk_copied timeout same.faults apart).post ?_ fun _ _ _ => trivial)
  rintro - w ⟨c, copied, hc, copies, hw, there⟩
  have kept : w.1.orchestrator = u.1.orchestrator := hw.orchestrator.trans same.orchestrator
  have held : HasRecord w.1 bound.volume.name (some bound.volume) w.1 := by
    refine .refl hw.faults ?_
    rw [kept, hv]
  refine ensures_bind.mpr ((recordAnew_recorded _ target held hp).post (fun _ z hz => ?_) fun _ _ _ => trivial)
  obtain ⟨c', hc', storages, disks⟩ := hw.clusters
  have now : z.1.clusters bound.handle.region = some c' := by
    rw [hz.clusters, hc']
    exact Keyed.put_self _ _ _
  refine ensures_rewording.mpr (ensures_cluster.mpr ⟨trivial, fun x y e => ?_⟩)
  obtain ⟨answered, -⟩ := Site.recorded_eq.mp e
  obtain ⟨rfl, after⟩ := Site.cluster_faultless hz.faults now answered
  cases gone : (c'.answer bound.handle.region
      (.deleteDisk bound.handle.zone bound.handle.storage bound.handle.volid)).1 with
  | error f => trivial
  | ok _ =>
    have moved := diskMoved_deleteDisk (apart c hc) elsewhere copies storages disks there gone
    refine ⟨Site.answer_faultless hz.faults answered, ⟨c, _, same.clusters ▸ hc, ?_, moved⟩, ?_, ?_⟩
    · rw [after, hz.clusters, hc', Keyed.put_put, same.clusters]
    · rw [Site.orchestrator_cluster answered, hz.orchestrator, kept]
    · rw [Site.orchestrator_cluster answered, hz.orchestrator, kept]

end Maintenance

end ClusterVolumes
