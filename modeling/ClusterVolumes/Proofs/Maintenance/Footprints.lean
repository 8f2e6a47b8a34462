import ClusterVolumes.Maintenance.Drain
import ClusterVolumes.Maintenance.Rebind
import ClusterVolumes.Maintenance.Relocate
import ClusterVolumes.Proofs.Footprint

/-!
# What the parts of the work are about

The parts of a workflow stay with their own subjects, whatever they are answered: a disk is copied without a word to the
orchestrator (`copyDisk_asks`), moving a disk is about volumes (`relocate_asks`), rebuilding claims about claims and
volumes (`rebind_asks`), and clearing claims of pods about pods (`clear_asks`). None of them touches a node, which only
cordons do.

Where a statement is about fewer calls than a subject has, it goes by the lemmas that name the calls of a part one by
one, such as `awaitDetached_asks_of` and `drainFrom_asks_of`.
-/

namespace ClusterVolumes

open Orchestrator
open Service

/-! ## Clusters -/

namespace Fleet

theorem isOnline_asks (region node : String) :
    (isOnline region node).Within [] :=
  (cluster_within _ _ _).bind fun _ => asks_pure

/-- Waiting for a task asks for its status. -/
theorem awaitTask_asks_of {kind : Call → Prop} {region node task : String} (timeout : Nat) {pause : Nat}
    (status : kind (.cluster region (.taskStatus node task))) (sleep : kind (.sleep pause))
    (deadline : kind (.deadline timeout)) : (awaitTask region node task timeout pause).Asks kind := by
  refine Asks.pollUntil ?_ sleep deadline
  refine (asks_cluster status).bind fun status => ?_
  split
  · exact asks_pure
  split
  · exact asks_pure
  · exact asks_throw

theorem awaitTask_asks (region node task : String) (timeout pause : Nat) :
    (awaitTask region node task timeout pause).Within [] :=
  awaitTask_asks_of timeout rfl rfl rfl

/-- The owner of a disk is looked for in the configurations of machines. -/
theorem findOwnerAmong_asks_of {kind : Call → Prop} {volume : VolumeHandle}
    (config : ∀ node vmid, kind (.cluster volume.region (.vmConfig node vmid))) :
    ∀ machines : List Hypervisor.ClusterResource, (findOwnerAmong volume machines).Asks kind
  | [] => asks_pure
  | r :: rest => by
    have passed := findOwnerAmong_asks_of config rest
    unfold findOwnerAmong
    split
    · split
      · exact passed
      · refine (asks_cluster (config _ _)).bind fun config => ?_
        split
        · exact asks_pure
        · exact passed
    · exact passed

/-- The owner is looked for among the machines of the disk's region. -/
theorem findDiskOwner_asks_of {κ : Type} {kind : Call → Prop} (f : Fleet κ) {volume : VolumeHandle}
    (machines : kind (.cluster volume.region (.resources .vm)))
    (config : ∀ node vmid, kind (.cluster volume.region (.vmConfig node vmid))) :
    (f.findDiskOwner volume).Asks kind :=
  asks_ofExcept.bind fun _ => (asks_cluster machines).bind fun l => findOwnerAmong_asks_of config l

end Fleet

namespace Maintenance

variable (m : Maintenance)

/-- Whether the driver logged in as a user is asked of nobody. -/
theorem requirePrivileged_asks_of {kind : Call → Prop} (region : String) : (m.requirePrivileged region).Asks kind := by
  unfold requirePrivileged
  refine asks_ofExcept.bind fun privileged => ?_
  split
  · exact asks_pure
  · exact asks_throw

theorem requirePrivileged_asks (region : String) :
    (m.requirePrivileged region).Within [] :=
  m.requirePrivileged_asks_of region

/-- Waiting for a disk to be free asks for the machines of its region and for their configurations. -/
theorem awaitDetached_asks_of {kind : Call → Prop} {handle : VolumeHandle}
    (machines : kind (.cluster handle.region (.resources .vm)))
    (config : ∀ node vmid, kind (.cluster handle.region (.vmConfig node vmid)))
    (sleep : kind (.sleep m.timing.pause)) (deadline : kind (.deadline m.timing.detaching)) :
    (m.awaitDetached handle).Asks kind := by
  refine Asks.pollUntil ?_ sleep deadline
  refine (m.fleet.findDiskOwner_asks_of machines config).bind fun o => ?_
  cases o
  · exact asks_pure
  · exact asks_pure

theorem awaitDetached_asks (handle : VolumeHandle) :
    (m.awaitDetached handle).Within [] :=
  m.awaitDetached_asks_of rfl (fun _ _ => rfl) rfl rfl

/-- Copying a disk asks clusters only. -/
theorem copyDisk_asks (handle : VolumeHandle) (target : String) (timeout : Nat) :
    (m.copyDisk handle target timeout).Within [] := by
  unfold copyDisk
  refine (cluster_within _ _ _).bind fun task => ?_
  refine (Fleet.awaitTask_asks _ _ _ _ _).bind fun _ => ?_
  refine (cluster_within _ _ _).bind fun content => ?_
  split
  · exact asks_pure
  · exact asks_throw

/-! ## Volumes and claims -/

theorem volumeRecord_asks (name : String) :
    (volumeRecord name).Within [.volumes] :=
  (orchestrator_within (by rfl)).bind fun _ => asks_require

/-- A bound claim is looked for by a look at the claim and one at a volume. -/
theorem boundClaim_asks_of {kind : Call → Prop} {space name : String} (claim : kind (.orchestrator (.claim space name)))
    (volume : ∀ volumeName, kind (.orchestrator (.volume volumeName))) : (m.boundClaim space name).Asks kind := by
  unfold boundClaim
  refine (asks_orchestrator claim).bind fun _ => ?_
  refine asks_require.bind fun claim => ?_
  refine asks_require.bind fun volumeName => ?_
  refine ((asks_orchestrator (volume volumeName)).bind fun _ => asks_require).bind fun volume => ?_
  refine asks_require.bind fun source => ?_
  exact asks_ofExcept.bind fun _ => asks_pure

theorem boundClaim_asks (space name : String) :
    (m.boundClaim space name).Within [.claims, .volumes] :=
  m.boundClaim_asks_of rfl fun _ => rfl

theorem setPolicy_asks (name policy : String) :
    (setPolicy name policy).Within [.volumes] := by
  unfold setPolicy
  refine (volumeRecord_asks name).bind fun volume => ?_
  simp only
  split
  · exact asks_pure
  · exact (orchestrator_within (by rfl)).bind fun _ => asks_pure

theorem retain_asks (name : String) : (retain name).Within [.volumes] := by
  unfold retain
  refine (volumeRecord_asks name).bind fun volume => ?_
  simp only
  split
  · exact asks_pure
  · exact (setPolicy_asks name retained).bind fun _ => asks_pure

theorem unclaim_asks (name : String) : (unclaim name).Within [.volumes] := by
  unfold unclaim
  refine (volumeRecord_asks name).bind fun volume => ?_
  exact (orchestrator_within (by rfl)).bind fun _ => asks_pure

theorem recordAnew_asks (name : String) (handle : VolumeHandle) (zone : String) :
    (recordAnew name handle zone).Within [.volumes] := by
  unfold recordAnew
  refine (retain_asks name).bind fun policy => ?_
  refine (volumeRecord_asks name).bind fun current => ?_
  refine (orchestrator_within (by rfl)).bind fun _ => ?_
  exact (orchestrator_within (by rfl)).bind fun _ => asks_pure

/-- Moving a disk is about volumes. -/
theorem relocate_asks (bound : BoundClaim) (target : String) (timeout : Nat) :
    (m.relocate bound target timeout).Within [.volumes] := by
  unfold relocate
  refine ((m.awaitDetached_asks bound.handle).widen (by simp)).bind fun _ => ?_
  refine ((m.copyDisk_asks bound.handle target timeout).widen (by simp)).bind fun _ => ?_
  refine (recordAnew_asks _ _ _).bind fun _ => ?_
  exact (cluster_within _ _ _).rewording

theorem awaitBound_asks (space name : String) :
    (m.awaitBound space name).Within [.claims] := by
  refine Asks.pollUntil ?_ rfl rfl
  refine (orchestrator_within (by rfl)).bind fun found => ?_
  split
  · exact asks_pure
  · exact asks_pure

/-- Rebuilding claims is about claims and volumes. -/
theorem rebind_asks (space : String) (plan : List Rebinding) :
    (m.rebind space plan).Within [.claims, .volumes] := by
  unfold rebind
  refine (Asks.mapM fun r _ => (retain_asks r.volume.name).widen (by simp)).bind fun policies => ?_
  refine (Asks.forM fun r _ => orchestrator_within (by rfl)).bind fun _ => ?_
  refine (Asks.forM fun r _ => (unclaim_asks r.volume.name).widen (by simp)).bind fun _ => ?_
  refine (Asks.forM fun r _ => (orchestrator_within (by rfl)).bind fun _ => asks_pure).bind fun _ => ?_
  refine (Asks.forM fun r _ => (m.awaitBound_asks space r.name).widen (by simp)).bind fun _ => ?_
  exact Asks.forM fun r _ => (setPolicy_asks r.1.volume.name r.2).widen (by simp)

/-! ## Pods -/

theorem consumers_asks_of {kind : Call → Prop} {space : String} (claims : List String)
    (list : kind (.orchestrator (.pods space))) : (consumers space claims).Asks kind :=
  (asks_orchestrator list).bind fun _ => asks_pure

theorem consumers_asks (space : String) (claims : List String) :
    (consumers space claims).Within [.pods] :=
  consumers_asks_of claims rfl

/-- Clearing claims of pods deletes these pods, and lists pods until they are gone. -/
theorem clear_asks_of {kind : Call → Prop} {space : String} (claims : List String) {pods : List Pod}
    (list : kind (.orchestrator (.pods space))) (delete : ∀ p ∈ pods, kind (.orchestrator (.deletePod space p.name)))
    (sleep : ∀ ms, kind (.sleep ms)) (deadline : ∀ ms, kind (.deadline ms)) :
    (m.clear space claims pods).Asks kind := by
  have free : (areFree space claims).Asks kind := (consumers_asks_of claims list).bind fun _ => asks_pure
  unfold clear
  refine (Asks.forM fun p hp => asks_orchestrator (delete p hp)).bind fun _ => ?_
  refine (asks_deadline (deadline _)).bind fun _ => ?_
  refine (free.poll (sleep _) _).bind fun inTime => ?_
  cases inTime with
  | some _ => exact asks_sleep (sleep _)
  | none => exact free.bind fun _ => asks_require.bind fun _ => asks_sleep (sleep _)

theorem clear_asks (space : String) (claims : List String) (pods : List Pod) :
    (m.clear space claims pods).Within [.pods] :=
  m.clear_asks_of claims rfl (fun _ _ => rfl) (fun _ => rfl) fun _ => rfl

end Maintenance

/-! ## Draining -/

namespace Cordon

theorem holdAll_asks_of {kind : Call → Prop} (mark : ∀ node, kind (.orchestrator (.setUnschedulable node true))) :
    ∀ (nodes : List String) (c : Cordon), (c.holdAll nodes).Asks kind
  | [], _ => asks_pure
  | node :: rest, c => by
    unfold holdAll
    refine Asks.bind ?_ fun o => ?_
    · unfold hold
      split
      · exact asks_pure
      · exact (asks_orchestrator (mark node)).attempt.bind fun _ => asks_pure
    · obtain ⟨held, _ | _⟩ := o
      · exact asks_pure
      · exact holdAll_asks_of mark rest held

theorem release_asks_of {kind : Call → Prop} (mark : ∀ node, kind (.orchestrator (.setUnschedulable node false)))
    (c : Cordon) : c.release.Asks kind :=
  Asks.forM fun node _ => (asks_orchestrator (mark node)).attempt.bind fun _ => asks_pure

theorem release_asks (c : Cordon) : c.release.Within [.nodes] :=
  release_asks_of (fun _ => rfl) c

end Cordon

namespace Maintenance

variable (m : Maintenance)

/-- What a drain does when it has found the pods that use some claims. -/
def drainFrom (space : String) (claims : List String) (force : Bool) (pods : List Pod) : Service (Option Cordon) := do
  if pods.isEmpty then pure none
  else if !force then
    throw (.conflict (Text.quotedList claims ++ " in use by pods " ++ Text.quotedList (pods.map (·.name)) ++
      ", use --force to evict them"))
  else
    let (held, cordoned) ← Cordon.holdAll {} (← m.driverNodes)
    let cleared : Service Unit := do
      Service.ofExcept cordoned
      m.clear space claims pods
    match ← cleared.attempt with
    | .ok _ => pure (some held)
    | .error f =>
      held.release
      throw f

theorem drain_eq (space : String) (claims : List String) (force : Bool) :
    m.drain space claims force = consumers space claims >>= m.drainFrom space claims force := rfl

/-- When the pods are found, a drain marks nodes, deletes these pods and lists pods. -/
theorem drainFrom_asks_of {kind : Call → Prop} {space : String} (claims : List String) (force : Bool)
    {pods : List Pod} (list : kind (.orchestrator (.pods space)))
    (delete : ∀ p ∈ pods, kind (.orchestrator (.deletePod space p.name))) (sleep : ∀ ms, kind (.sleep ms))
    (deadline : ∀ ms, kind (.deadline ms)) (drivers : kind (.orchestrator .nodeDrivers))
    (mark : ∀ node unschedulable, kind (.orchestrator (.setUnschedulable node unschedulable))) :
    (m.drainFrom space claims force pods).Asks kind := by
  unfold drainFrom
  split
  · exact asks_pure
  split
  · exact asks_throw
  refine Asks.bind ((asks_orchestrator drivers).bind fun _ => asks_pure) fun nodes => ?_
  refine (Cordon.holdAll_asks_of (fun node => mark node true) nodes {}).bind ?_
  rintro ⟨held, cordoned⟩
  have clears : Asks (Service.ofExcept cordoned >>= fun _ => m.clear space claims pods) kind :=
    asks_ofExcept.bind fun _ => m.clear_asks_of claims list delete sleep deadline
  refine clears.attempt.bind fun cleared => ?_
  cases cleared with
  | ok _ => exact asks_pure
  | error f => exact (Cordon.release_asks_of (fun node => mark node false) held).bind fun _ => asks_throw

/-- A drain is about nodes and pods. -/
theorem drain_asks (space : String) (claims : List String) (force : Bool) :
    (m.drain space claims force).Within [.nodes, .pods] := by
  have list : (consumers space claims).Within [.nodes, .pods] := consumers_asks_of claims rfl
  rw [drain_eq]
  refine list.bind fun pods => ?_
  exact m.drainFrom_asks_of claims force rfl (fun _ _ => rfl) (fun _ => rfl) (fun _ => rfl) rfl fun _ _ => rfl

end Maintenance

end ClusterVolumes
