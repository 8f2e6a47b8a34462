import ClusterVolumes.Proofs.Provisioning.Deletion
import ClusterVolumes.Proofs.Provisioning.DeletionCalls
import ClusterVolumes.Proofs.Provisioning.Idempotence
import ClusterVolumes.Proofs.Site.Prompt
import ClusterVolumes.Proofs.Text.Occurrence

/-!
# Deletions that nothing hinders

Where no more is wrong than that storages seem absent which do not hold the disk (`Harmless`), a deletion is as good as
its request: it ends well if the handle can be read, its region is known and there is a node to ask (`Ready`), and it
takes away the disk from the first storage that holds it (`Clears`). `deleteVolume_clears` says so.

So a second deletion finds nothing (`deletion_repeats`), and `deleteVolume_confined` adds what is so at every site.
-/

namespace ClusterVolumes

open Csi Service
open Site (ClusterState)

/-! ## Locks at a site -/

/-- A service runs under a lock, which only the list of locks tells. -/
theorem Site.ensures_holding {α : Type} {key : String} {service : Service α} {good : α → Site × History → Prop}
    {bad : Failure → Site × History → Prop} {u : Site × History}
    (run : Ensures Site.recorded (fun _ _ => True) service
      (fun a w => good a ({ w.1 with held := w.1.held.erase key }, ⟨.release key, ()⟩ :: w.2))
      (fun f w => bad f ({ w.1 with held := w.1.held.erase key }, ⟨.release key, ()⟩ :: w.2))
      ({ u.1 with held := key :: u.1.held }, ⟨.acquire key, ()⟩ :: u.2)) :
    Ensures Site.recorded (fun _ _ => True) (Service.holding key service) good bad u := by
  refine Ensures.holding trivial ?_
  rintro x v acquired
  obtain rfl : ({ u.1 with held := key :: u.1.held }, ⟨.acquire key, ()⟩ :: u.2) = v := (Prod.mk.inj acquired).2
  refine run.post (fun a w hw => ⟨trivial, ?_⟩) fun f w hw => ⟨trivial, ?_⟩
  · rintro y z released
    obtain rfl : ({ w.1 with held := w.1.held.erase key }, ⟨.release key, ()⟩ :: w.2) = z := (Prod.mk.inj released).2
    exact hw
  · rintro y z released
    obtain rfl : ({ w.1 with held := w.1.held.erase key }, ⟨.release key, ()⟩ :: w.2) = z := (Prod.mk.inj released).2
    exact hw

namespace Provisioning

/-! ## Storages that hold a disk -/

/-- A node of a region has a storage and lists a disk there. -/
def Holds (clusters : Keyed String ClusterState) (region node storage disk : String) : Prop :=
  ∃ c, clusters region = some c ∧ (c.entry? node storage).isSome = true ∧ c.Lists node storage (storage ++ ":" ++ disk)

/-- All that faults do is to make storages seem absent that do not hold a disk. -/
def Harmless (s : Site) (disk : String) : Prop :=
  ∀ fault ∈ s.faults, meansAbsent fault.failure = true ∧ ∀ call, fault.concerns call = true →
    ∃ region node storage, call = .cluster region (.storageContent node storage) ∧
      ¬Holds s.clusters region node storage disk

section

variable {s t : Site} {disk node storage : String} {v : VolumeHandle} {c : ClusterState}

theorem harmless_of_faultless (h : s.faults = []) : Harmless s disk := by
  intro fault mem
  rw [h] at mem
  cases mem

/-- Faults stay harmless while no storage gets the disk. -/
theorem Harmless.answer {call : Call} {x : call.Answer} (h : Harmless s disk) (e : Site.answer call s = (x, t))
    (fewer : ∀ region node storage, Holds t.clusters region node storage disk →
      Holds s.clusters region node storage disk) : Harmless t disk := by
  have kept := (Site.answer_faults_forall (fun fault => (fault.concerns, fault.failure)) (fun _ _ => rfl)
    (fun p => meansAbsent p.2 = true ∧ ∀ call, p.1 call = true →
      ∃ region node storage, call = .cluster region (.storageContent node storage) ∧
        ¬Holds s.clusters region node storage disk) e).mpr h
  intro fault mem
  obtain ⟨absent, concerns⟩ := kept fault mem
  refine ⟨absent, fun call concerned => ?_⟩
  obtain ⟨region, node, storage, e, free⟩ := concerns call concerned
  exact ⟨region, node, storage, e, fun held => free (fewer _ _ _ held)⟩

/-- A node that does not have a storage says that it is absent. -/
theorem meansAbsent_unknownStorage (region storage : String) :
    meansAbsent (ClusterState.unknownStorage region storage) = true := by
  have start : Failure.parameterVerification.toList <+:
      "Parameter verification failed. (storage: storage '".toList.map Char.toLower := by decide
  have found := Text.occursIn_iff.mpr (start.trans (List.prefix_append _
    ((storage ++ "' does not exist)").toList.map Char.toLower))).isInfix
  rw [← List.map_append, ← String.toList_append, ← String.append_assoc] at found
  have verified : (ClusterState.unknownStorage region storage).isParameterVerification = true := found
  rw [meansAbsent, verified, Bool.or_true]

/-! ## Single calls -/

/-- A storage is asked for its disks: it lists the disk if it holds it, and otherwise it does not, or seems absent. -/
theorem answer_lookup (harmless : Harmless s v.disk) {x : Except Failure (List Hypervisor.StorageVolume)}
    (e : Site.answer (.cluster v.region (.storageContent node storage)) s = (x, t)) :
    t.clusters = s.clusters ∧
      (¬Holds s.clusters v.region node storage v.disk ∧ Misses v storage x ∨
        Holds s.clusters v.region node storage v.disk ∧
          ∃ content, x = .ok content ∧ ∃ d ∈ content, d.volid = storage ++ ":" ++ v.disk) := by
  have struck : ∀ f, s.Strikes f → meansAbsent f = true := by
    rintro f ⟨fault, mem, rfl⟩
    exact (harmless fault mem).1
  by_cases held : Holds s.clusters v.region node storage v.disk
  · have spared : ∀ fault ∈ s.faults, fault.concerns (.cluster v.region (.storageContent node storage)) = false := by
      intro fault mem
      refine Bool.eq_false_iff.mpr fun concerned => ?_
      obtain ⟨region, node', storage', same, free⟩ := (harmless fault mem).2 _ concerned
      cases same
      exact free held
    obtain ⟨c, there, entry, listed⟩ := held
    rcases Site.cluster_spared spared e with ⟨c', hc', rfl, ht⟩ | ⟨absent, -⟩
    · obtain rfl : c' = c := Option.some.inj (hc'.symm.trans there)
      rw [ClusterState.answer_storageContent_keeps, Keyed.put_of_eq there] at ht
      refine ⟨ht, .inr ⟨⟨c', there, entry, listed⟩, _, ClusterState.answer_storageContent entry v.region, ?_⟩⟩
      exact ClusterState.lists_iff.mp listed
    · rw [there] at absent
      cases absent
  · rcases Site.answer_cluster e with ⟨f, rfl, ht, why⟩ | ⟨c, there, rfl, ht⟩ | ⟨c, f, there, rfl, strikes, ht⟩
    · refine ⟨ht, .inl ⟨held, ?_⟩⟩
      rcases why with strikes | ⟨-, rfl⟩
      · exact struck f strikes
      · rfl
    · rw [ClusterState.answer_storageContent_keeps, Keyed.put_of_eq there] at ht
      refine ⟨ht, .inl ⟨held, ?_⟩⟩
      by_cases entry : (c.entry? node storage).isSome = true
      · rw [ClusterState.answer_storageContent entry]
        intro d mem name
        exact held ⟨c, there, entry, ClusterState.lists_iff.mpr ⟨d, mem, name⟩⟩
      · simp only [ClusterState.answer]
        rw [if_neg entry]
        exact meansAbsent_unknownStorage v.region storage
    · rw [ClusterState.answer_storageContent_keeps, Keyed.put_of_eq there] at ht
      exact ⟨ht, .inl ⟨held, struck f strikes⟩⟩

/-- Only calls for the disks of a storage are hindered. -/
theorem Harmless.spared (harmless : Harmless s disk) (region : String) {r : Hypervisor.Request}
    (other : ∀ node storage, r ≠ .storageContent node storage) :
    ∀ fault ∈ s.faults, fault.concerns (.cluster region r) = false := by
  intro fault mem
  refine Bool.eq_false_iff.mpr fun concerned => ?_
  obtain ⟨region', node, storage, same, -⟩ := (harmless fault mem).2 _ concerned
  cases same
  exact other node storage rfl

/-- The disk that a storage holds is deleted when that is asked for. -/
theorem answer_removal (harmless : Harmless s v.disk) (there : s.clusters v.region = some c)
    (listed : c.Lists node storage (storage ++ ":" ++ v.disk)) {x : Except Failure Unit}
    (e : Site.answer (.cluster v.region (.deleteDisk node storage (storage ++ ":" ++ v.disk))) s = (x, t)) :
    x = .ok () ∧
      t.clusters = s.clusters.put v.region (some (c.removeDisk node storage (storage ++ ":" ++ v.disk))) := by
  have found : ((c.disksOn node storage).any fun d => d.volid = storage ++ ":" ++ v.disk) = true := by
    simpa using ClusterState.lists_iff.mp listed
  have other : ∀ node' storage', Hypervisor.Request.deleteDisk node storage (storage ++ ":" ++ v.disk) ≠
      .storageContent node' storage' := nofun
  rcases Site.cluster_spared (harmless.spared v.region other) e with ⟨c', hc', rfl, ht⟩ | ⟨absent, -⟩
  · obtain rfl : c' = c := Option.some.inj (hc'.symm.trans there)
    simp only [ClusterState.answer] at ht ⊢
    rw [if_pos found] at ht ⊢
    exact ⟨rfl, ht⟩
  · rw [there] at absent
    cases absent

/-- A cluster that is there tells its members and resources, and nothing changes. -/
theorem Harmless.told {u w : Site × History} (harmless : Harmless u.1 disk) {region : String} {r : Hypervisor.Request}
    (looks : r = .members ∨ r = .resources .storage) {x : Except Failure r.Answer}
    (e : Site.recorded u (.cluster region r) x w) :
    (w.1.clusters = u.1.clusters ∧ Harmless w.1 disk ∧ w.2.changing = u.2.changing) ∧
      ((∃ c, u.1.clusters region = some c ∧ x = (c.answer region r).1) ∨
        u.1.clusters region = none ∧ x = .error (.regionNotFound region)) := by
  obtain ⟨answered, past⟩ := Site.recorded_eq.mp e
  have other : ∀ node storage, r ≠ .storageContent node storage := by
    rcases looks with rfl | rfl
    · nofun
    · nofun
  have kept (same : w.1.clusters = u.1.clusters) :
      w.1.clusters = u.1.clusters ∧ Harmless w.1 disk ∧ w.2.changing = u.2.changing := by
    refine ⟨same, harmless.answer answered fun _ _ _ held => same ▸ held, ?_⟩
    rw [past, History.changing_cons]
    rcases looks with rfl | rfl
    · rfl
    · rfl
  rcases Site.cluster_spared (harmless.spared region other) answered with ⟨c, there, rfl, put⟩ | ⟨absent, rfl, same⟩
  · have same : (c.answer region r).2 = c := by
      rcases looks with rfl | rfl
      · rfl
      · rfl
    rw [same, Keyed.put_of_eq there] at put
    exact ⟨kept put, .inl ⟨c, there, rfl⟩⟩
  · exact ⟨kept same, .inr ⟨absent, rfl⟩⟩

/-- A disk that was taken away is not listed, and no other one is listed that was not. -/
theorem lists_removeDisk {node' storage' volid volid' : String} :
    (c.removeDisk node storage volid).Lists node' storage' volid' →
      c.Lists node' storage' volid' ∧ ¬(node' = node ∧ storage' = storage ∧ volid' = volid) := by
  rintro ⟨d, mem, sees, name⟩
  obtain ⟨mem, kept⟩ := List.mem_filter.mp mem
  refine ⟨⟨d, mem, sees, name⟩, ?_⟩
  rintro ⟨rfl, rfl, rfl⟩
  have seen : c.sees node' storage' d = true := sees
  simp [seen, name] at kept

/-- Taking a disk away gives it to no storage, and the storage does not hold it any more. -/
theorem holds_removeDisk {region node' storage' region' disk' : String} {clusters : Keyed String ClusterState}
    (there : clusters region = some c)
    (held : Holds (clusters.put region (some (c.removeDisk node storage (storage ++ ":" ++ disk)))) region' node'
      storage' disk') :
    Holds clusters region' node' storage' disk' ∧
      ¬(region' = region ∧ node' = node ∧ storage' = storage ∧ disk' = disk) := by
  obtain ⟨c', hc', entry, listed⟩ := held
  by_cases own : region' = region
  · subst own
    rw [Keyed.put_self] at hc'
    obtain rfl := Option.some.inj hc'
    obtain ⟨before, other⟩ := lists_removeDisk listed
    refine ⟨⟨c, there, entry, before⟩, ?_⟩
    rintro ⟨-, rfl, rfl, rfl⟩
    exact other ⟨rfl, rfl, rfl⟩
  · rw [Keyed.put_of_ne _ _ own] at hc'
    exact ⟨⟨c', hc', entry, listed⟩, fun same => own same.1⟩

end

/-! ## Searching storages -/

/-- What becomes of clusters when storages are searched for a disk, and which calls change them: the disk is taken away
from the first storage that holds it. -/
inductive Clears (clusters : Keyed String ClusterState) (v : VolumeHandle) (node : String) :
    List String → Keyed String ClusterState → List Call → Prop
  | nil : Clears clusters v node [] clusters []
  | missed {storage : String} {rest : List String} {clusters' : Keyed String ClusterState} {calls : List Call} :
      ¬Holds clusters v.region node storage v.disk → Clears clusters v node rest clusters' calls →
        Clears clusters v node (storage :: rest) clusters' calls
  | found {storage : String} {rest : List String} {c : ClusterState} :
      Holds clusters v.region node storage v.disk → clusters v.region = some c →
        Clears clusters v node (storage :: rest)
          (clusters.put v.region (some (c.removeDisk node storage (storage ++ ":" ++ v.disk))))
          [.cluster v.region (.deleteDisk node storage (storage ++ ":" ++ v.disk))]

section

variable {clusters clusters' : Keyed String ClusterState} {v : VolumeHandle} {node : String} {storages : List String}
  {calls : List Call}

/-- Where no storage holds the disk nothing changes. -/
theorem Clears.kept (h : Clears clusters v node storages clusters' calls)
    (free : ∀ storage ∈ storages, ¬Holds clusters v.region node storage v.disk) :
    clusters' = clusters ∧ calls = [] := by
  induction h with
  | nil => exact ⟨rfl, rfl⟩
  | missed _ _ ih => exact ih fun storage mem => free storage (List.mem_cons_of_mem _ mem)
  | found held => exact absurd held (free _ List.mem_cons_self)

/-- The disk is taken away from the one storage that holds it. -/
theorem Clears.removed (h : Clears clusters v node storages clusters' calls) {storage : String}
    (mem : storage ∈ storages) (held : Holds clusters v.region node storage v.disk)
    (only : ∀ other ∈ storages, other ≠ storage → ¬Holds clusters v.region node other v.disk) {c : ClusterState}
    (there : clusters v.region = some c) :
    clusters' = clusters.put v.region (some (c.removeDisk node storage (storage ++ ":" ++ v.disk))) := by
  induction h with
  | nil => cases mem
  | @missed first rest clusters' calls free _ ih =>
    rcases List.mem_cons.mp mem with rfl | mem
    · exact absurd held free
    · exact ih mem fun other mem => only other (List.mem_cons_of_mem _ mem)
  | @found first rest c' held' there' =>
    obtain rfl : c' = c := Option.some.inj (there'.symm.trans there)
    have same : first = storage := by
      by_contra other
      exact only first List.mem_cons_self other held'
    rw [same]

/-- Members and resources stay. -/
theorem Clears.tells (h : Clears clusters v node storages clusters' calls) {region : String} {c : ClusterState}
    (there : clusters region = some c) : ∃ c', clusters' region = some c' ∧ c'.members = c.members ∧
      c'.storageResources = c.storageResources := by
  induction h with
  | nil => exact ⟨c, there, rfl, rfl⟩
  | missed _ _ ih => exact ih
  | @found storage rest c' _ there' =>
    by_cases own : region = v.region
    · subst own
      obtain rfl : c' = c := Option.some.inj (there'.symm.trans there)
      exact ⟨_, Keyed.put_self _ _ _, rfl, rfl⟩
    · exact ⟨c, (Keyed.put_of_ne _ _ own).trans there, rfl, rfl⟩

/-- If one storage held the disk at most, none does afterwards. -/
theorem Clears.leaves_none (h : Clears clusters v node storages clusters' calls)
    (once : ∀ a ∈ storages, ∀ b ∈ storages, Holds clusters v.region node a v.disk →
      Holds clusters v.region node b v.disk → a = b) :
    ∀ storage ∈ storages, ¬Holds clusters' v.region node storage v.disk := by
  by_cases free : ∀ storage ∈ storages, ¬Holds clusters v.region node storage v.disk
  · rw [(h.kept free).1]
    exact free
  · push Not at free
    obtain ⟨storage, mem, held⟩ := free
    have holds := held
    obtain ⟨c, there, -⟩ := holds
    have only : ∀ other ∈ storages, other ≠ storage → ¬Holds clusters v.region node other v.disk :=
      fun other mem' different held' => different (once other mem' storage mem held' held)
    rw [h.removed mem held only there]
    intro other mem' left
    obtain ⟨held', gone⟩ := holds_removeDisk there left
    exact gone ⟨rfl, rfl, once other mem' storage mem held' held, rfl⟩

end

/-- What comes of the search of one storage. -/
inductive Looked (v : VolumeHandle) (node storage : String) (u w : Site × History) : Bool → Prop
  | missed : ¬Holds u.1.clusters v.region node storage v.disk → w.1.clusters = u.1.clusters →
      w.2.changing = u.2.changing → Looked v node storage u w false
  | found (c : ClusterState) : Holds u.1.clusters v.region node storage v.disk → u.1.clusters v.region = some c →
      w.1.clusters = u.1.clusters.put v.region (some (c.removeDisk node storage (storage ++ ":" ++ v.disk))) →
      w.2.changing = .cluster v.region (.deleteDisk node storage (storage ++ ":" ++ v.disk)) :: u.2.changing →
      Looked v node storage u w true

section

variable {id node : String} {v : VolumeHandle} {u : Site × History}

theorem deleteFrom_looks (id node storage : String) (harmless : Harmless u.1 v.disk) :
    Ensures Site.recorded (fun _ _ => True) (deleteFrom id node { v with storage := storage })
      (fun deleted w => Harmless w.1 v.disk ∧ Looked v node storage u w deleted) (fun _ _ => False) u := by
  rw [deleteFrom_storage]
  refine ensures_bind.mpr (ensures_attempt.mpr (ensures_cluster.mpr ⟨trivial, fun x w e => ?_⟩))
  obtain ⟨answered, past⟩ := Site.recorded_eq.mp e
  obtain ⟨same, ways⟩ := answer_lookup harmless answered
  have harmless' : Harmless w.1 v.disk := harmless.answer answered fun _ _ _ held => same ▸ held
  have quiet : w.2.changing = u.2.changing := by
    rw [past, History.changing_cons]
    rfl
  cases x with
  | error f =>
    rcases ways with ⟨free, absent⟩ | ⟨-, content, e, -⟩
    · have absent : meansAbsent f = true := absent
      simp only [onOutcome]
      rw [if_pos absent]
      exact ⟨harmless', .missed free same quiet⟩
    · cases e
  | ok content =>
    simp only [onOutcome]
    rcases ways with ⟨free, absent⟩ | ⟨held, content', e, d, mem, name⟩
    · have unlisted : ¬(content.any fun d => d.volid = storage ++ ":" ++ v.disk) = true := by
        rintro listed
        obtain ⟨d, mem, name⟩ := List.any_eq_true.mp listed
        exact absent d mem (of_decide_eq_true name)
      rw [if_neg unlisted]
      exact ⟨harmless', .missed free same quiet⟩
    · obtain rfl := Except.ok.inj e
      have listed : (content.any fun d => d.volid = storage ++ ":" ++ v.disk) = true :=
        List.any_eq_true.mpr ⟨d, mem, decide_eq_true name⟩
      rw [if_pos listed]
      have holds := held
      obtain ⟨c, there, entry, lists⟩ := held
      refine ensures_bind.mpr (ensures_rewording.mpr (ensures_cluster.mpr ⟨trivial, fun y z e => ?_⟩))
      obtain ⟨answered, last⟩ := Site.recorded_eq.mp e
      obtain ⟨rfl, taken⟩ := answer_removal harmless' (same ▸ there) lists answered
      rw [same] at taken
      refine ⟨harmless'.answer answered fun region node storage held => ?_, .found c holds there taken ?_⟩
      · rw [taken] at held
        exact same ▸ (holds_removeDisk there held).1
      · rw [last, History.changing_cons, quiet]
        rfl

/-- Storages are searched one after the other, and nothing fails. -/
theorem deleteFromFirst_clears : ∀ (storages : List String) {u : Site × History}, Harmless u.1 v.disk →
    Ensures Site.recorded (fun _ _ => True) (deleteFromFirst id node v storages)
      (fun _ w => ∃ calls, Clears u.1.clusters v node storages w.1.clusters calls ∧
        w.2.changing = calls ++ u.2.changing) (fun _ _ => False) u
  | [], u, _ => ⟨[], .nil, rfl⟩
  | storage :: rest, u, harmless => by
    unfold deleteFromFirst
    have searched := deleteFrom_looks id node storage
      (u := ({ u.1 with held := lockOn v storage :: u.1.held }, ⟨.acquire (lockOn v storage), ()⟩ :: u.2)) harmless
    refine ensures_bind.mpr (Site.ensures_holding (searched.post ?_ fun _ _ h => h))
    rintro deleted w ⟨harmless', looked⟩
    cases looked with
    | missed free same quiet =>
      have next := deleteFromFirst_clears rest
        (u := ({ w.1 with held := w.1.held.erase (lockOn v storage) }, ⟨.release (lockOn v storage), ()⟩ :: w.2))
        harmless'
      refine next.post ?_ fun _ _ h => h
      rintro - z ⟨calls, clears, changing⟩
      dsimp only at clears
      rw [same] at clears
      exact ⟨calls, .missed free clears, changing.trans (congrArg (calls ++ ·) quiet)⟩
    | found c held there taken last =>
      refine ⟨[.cluster v.region (.deleteDisk node storage (storage ++ ":" ++ v.disk))], ?_, last⟩
      have cleared : Clears u.1.clusters v node (storage :: rest) _ _ := .found held there
      exact taken ▸ cleared

end

/-! ## Whole deletions -/

/-- All that a deletion needs: the handle can be read, its region is known, and it is known which node to ask for which
storages. -/
structure Ready {κ : Type} (fleet : Fleet κ) (request : DeleteVolumeRequest) (s : Site) (v : VolumeHandle)
    (node : String) (storages : List String) : Prop where
  read : VolumeHandle.parseLegacy request.volumeId = .ok v
  known : ∃ access, fleet.get v.region = .ok access
  asked : if v.zone = "" then FirstOnline s v.region node else node = v.zone
  searched : if v.storage = "" then s.InRegion v.region fun c => storages = storagesIn node c.storageResources
    else storages = [v.storage]

section

variable {κ : Type} {fleet : Fleet κ} {request : DeleteVolumeRequest} {s t : Site} {v v' : VolumeHandle}
  {node node' : String} {storages storages' : List String}

theorem Ready.handle (h : Ready fleet request s v' node storages)
    (read : VolumeHandle.parseLegacy request.volumeId = .ok v) : v' = v :=
  Except.ok.inj (h.read.symm.trans read)

/-- A site tells one way only to delete a volume. -/
theorem Ready.unique (h : Ready fleet request s v node storages) (h' : Ready fleet request s v' node' storages') :
    v' = v ∧ node' = node ∧ storages' = storages := by
  obtain rfl := h'.handle h.read
  obtain rfl : node' = node := by
    have first := h.asked
    have first' := h'.asked
    split at first
    · rename_i anywhere
      rw [if_pos anywhere] at first'
      exact first'.unique first
    · rename_i named
      rw [if_neg named] at first'
      exact first'.trans first.symm
  refine ⟨rfl, rfl, ?_⟩
  have found := h.searched
  have found' := h'.searched
  split at found
  · rename_i anywhere
    rw [if_pos anywhere] at found'
    obtain ⟨c, -, e, e'⟩ := found.and found'
    exact e'.trans e.symm
  · rename_i named
    rw [if_neg named] at found'
    exact found'.trans found.symm

/-- What a deletion at a site comes to when nothing hinders it. -/
def Cleared (fleet : Fleet κ) (request : DeleteVolumeRequest) (s : Site) (w : Site × History) : Prop :=
  ∃ v node storages calls, Ready fleet request s v node storages ∧
    Clears s.clusters v node storages w.1.clusters calls ∧ w.2.changing = calls

/-- A deletion at a site is not told all that it needs. -/
def Unready (fleet : Fleet κ) (request : DeleteVolumeRequest) (s : Site) : Prop :=
  ∀ v node storages, ¬Ready fleet request s v node storages

/-- The storages of a node that is known are searched. -/
theorem storages_cleared {u : Site × History} (read : VolumeHandle.parseLegacy request.volumeId = .ok v)
    (known : ∃ access, fleet.get v.region = .ok access)
    (asked : if v.zone = "" then FirstOnline s v.region node else node = v.zone) (same : u.1.clusters = s.clusters)
    (harmless : Harmless u.1 v.disk) (quiet : u.2.changing = []) :
    Ensures Site.recorded (fun _ _ => True)
      (storagesOf request.volumeId node v >>= fun l => deleteFromFirst request.volumeId node v l)
      (fun _ w => Cleared fleet request s w) (fun _ _ => Unready fleet request s) u := by
  have search {u : Site × History} {storages : List String} (ready : Ready fleet request s v node storages)
      (same : u.1.clusters = s.clusters) (harmless : Harmless u.1 v.disk) (quiet : u.2.changing = []) :
      Ensures Site.recorded (fun _ _ => True) (deleteFromFirst request.volumeId node v storages)
        (fun _ w => Cleared fleet request s w) (fun _ _ => Unready fleet request s) u := by
    refine (deleteFromFirst_clears storages harmless).post ?_ fun _ _ h => h.elim
    rintro - w ⟨calls, clears, changing⟩
    rw [quiet, List.append_nil] at changing
    exact ⟨v, node, storages, calls, ready, same ▸ clears, changing⟩
  unfold storagesOf
  split
  · rename_i unnamed
    have anywhere := String.isEmpty_iff.mp unnamed
    refine ensures_bind.mpr (ensures_bind.mpr (ensures_rewording.mpr (ensures_cluster.mpr ⟨trivial, fun x w e => ?_⟩)))
    obtain ⟨⟨kept, harmless', calm⟩, ⟨c, there, rfl⟩ | ⟨absent, rfl⟩⟩ := harmless.told (.inr rfl) e
    · have ready : Ready fleet request s v node (storagesIn node c.storageResources) := by
        refine ⟨read, known, asked, ?_⟩
        rw [if_pos anywhere]
        exact ⟨c, same ▸ there, rfl⟩
      exact search ready (kept.trans same) harmless' (calm.trans quiet)
    · rintro v' node' storages ready
      obtain rfl := ready.handle read
      have found := ready.searched
      rw [if_pos anywhere] at found
      obtain ⟨c, there, -⟩ := found
      rw [same, there] at absent
      cases absent
  · rename_i named
    have ready : Ready fleet request s v node [v.storage] := by
      refine ⟨read, known, asked, ?_⟩
      rw [if_neg fun e => named (String.isEmpty_iff.mpr e)]
    exact search ready same harmless quiet

/-- Where the handle names no node, the first one that is online is asked. -/
theorem anywhere_cleared (read : VolumeHandle.parseLegacy request.volumeId = .ok v)
    (known : ∃ access, fleet.get v.region = .ok access) (anywhere : v.zone = "") (harmless : Harmless s v.disk) :
    Ensures Site.recorded (fun _ _ => True)
      ((Fleet.firstOnlineNode v.region).rewording (whileDeleting request.volumeId) >>= fun node =>
        storagesOf request.volumeId node v >>= fun l => deleteFromFirst request.volumeId node v l)
      (fun _ w => Cleared fleet request s w) (fun _ _ => Unready fleet request s) (s, []) := by
  unfold Fleet.firstOnlineNode
  refine ensures_bind.mpr (ensures_rewording.mpr (ensures_bind.mpr (ensures_cluster.mpr ⟨trivial, fun x w e => ?_⟩)))
  -- without a node that is online, none can be asked
  have lost (offline : ∀ node, ¬FirstOnline s v.region node) : Unready fleet request s := by
    rintro v' node storages ready
    obtain rfl := ready.handle read
    have first := ready.asked
    rw [if_pos anywhere] at first
    exact offline node first
  obtain ⟨⟨kept, harmless', quiet⟩, ⟨c, there, rfl⟩ | ⟨absent, rfl⟩⟩ := harmless.told (.inl rfl) e
  · have told : (c.answer v.region .members).1 = .ok c.members := rfl
    rw [told]
    simp only [onOutcome]
    split
    · rename_i m first
      refine storages_cleared read known ?_ kept harmless' quiet
      rw [if_pos anywhere]
      exact ⟨c, there, m, first, rfl⟩
    · rename_i none
      refine lost fun node online => ?_
      obtain ⟨c', there', m, first, -⟩ := online
      obtain rfl : c' = c := Option.some.inj (there'.symm.trans there)
      cases none.symm.trans first
  · refine lost fun node online => ?_
    obtain ⟨c, there, -⟩ := online
    cases absent.symm.trans there

/-- A deletion that nothing hinders ends well if all is told that it needs, and fails otherwise. -/
theorem deleteVolume_clears (fleet : Fleet κ)
    (harmless : ∀ v, VolumeHandle.parseLegacy request.volumeId = .ok v → Harmless s v.disk) :
    Ensures Site.recorded (fun _ _ => True) (deleteVolume fleet request) (fun _ w => Cleared fleet request s w)
      (fun _ _ => Unready fleet request s) (s, []) := by
  unfold deleteVolume
  simp only
  split
  · rename_i empty
    rintro v node storages ready
    have read := ready.read
    rw [String.isEmpty_iff.mp empty] at read
    cases read
  refine ensures_bind.mpr (ensures_ofExcept.mpr ?_)
  cases read : VolumeHandle.parseLegacy request.volumeId with
  | error f =>
    rintro v node storages ready
    cases read.symm.trans ready.read
  | ok v =>
    refine ensures_bind.mpr (ensures_ofExcept.mpr ?_)
    cases known : fleet.get v.region with
    | error f =>
      rintro v' node storages ready
      obtain rfl := ready.handle read
      obtain ⟨access, found⟩ := ready.known
      cases known.symm.trans found
    | ok access =>
      simp only [onOutcome]
      split
      · rename_i unnamed
        exact anywhere_cleared read ⟨access, known⟩ (String.isEmpty_iff.mp unnamed) (harmless v read)
      · rename_i named
        refine storages_cleared read ⟨access, known⟩ ?_ rfl (harmless v read) rfl
        rw [if_neg fun e => named (String.isEmpty_iff.mpr e)]

/-- A deletion that is told all that it needs ends well. -/
theorem Ready.deletes (ready : Ready fleet request s v node storages) (harmless : Harmless s v.disk) :
    ∃ t calls, Site.run (deleteVolume fleet request) s = (.ok (), t) ∧
      Clears s.clusters v node storages t.clusters calls ∧
      (Site.exchanges (deleteVolume fleet request) s).changing = calls := by
  have harmless : ∀ v, VolumeHandle.parseLegacy request.volumeId = .ok v → Harmless s v.disk := by
    intro v' read
    obtain rfl : v' = v := Except.ok.inj (read.symm.trans ready.read)
    exact harmless
  have ended := Site.run_exchanges_ended (deleteVolume_clears fleet harmless)
  cases run : Site.run (deleteVolume fleet request) s with
  | mk outcome t =>
    rw [run] at ended
    cases outcome with
    | error f => exact absurd ready (ended v node storages)
    | ok a =>
      obtain ⟨v', node', storages', calls, ready', clears, changing⟩ := ended
      obtain ⟨rfl, rfl, rfl⟩ := ready.unique ready'
      exact ⟨t, calls, rfl, clears, changing⟩

/-- A deletion that ends well was told all that it needs. -/
theorem ready_of_ok (faultless : s.faults = []) (hok : Site.run (deleteVolume fleet request) s = (.ok (), t)) :
    ∃ v node storages calls, Ready fleet request s v node storages ∧
      Clears s.clusters v node storages t.clusters calls := by
  have harmless : ∀ v, VolumeHandle.parseLegacy request.volumeId = .ok v → Harmless s v.disk :=
    fun _ _ => harmless_of_faultless faultless
  have ended := Site.run_exchanges_ended (deleteVolume_clears fleet harmless)
  rw [hok] at ended
  obtain ⟨v, node, storages, calls, ready, clears, -⟩ := ended
  exact ⟨v, node, storages, calls, ready, clears⟩

/-- All that a deletion needs is there after it as well. -/
theorem Ready.again {calls : List Call} (ready : Ready fleet request s v node storages)
    (clears : Clears s.clusters v node storages t.clusters calls) : Ready fleet request t v node storages where
  read := ready.read
  known := ready.known
  asked := by
    have first := ready.asked
    split at first
    · rename_i anywhere
      rw [if_pos anywhere]
      obtain ⟨c, there, m, found, name⟩ := first
      obtain ⟨c', there', members, -⟩ := clears.tells there
      exact ⟨c', there', m, members ▸ found, name⟩
    · rename_i named
      rw [if_neg named]
      exact first
  searched := by
    have found := ready.searched
    split at found
    · rename_i anywhere
      rw [if_pos anywhere]
      obtain ⟨c, there, listed⟩ := found
      obtain ⟨c', there', -, resources⟩ := clears.tells there
      exact ⟨c', there', listed.trans (congrArg (storagesIn node) resources.symm)⟩
    · rename_i named
      rw [if_neg named]
      exact found

/-- Without faults none is left after a run. -/
theorem faultless_after (faultless : s.faults = []) (hok : Site.run (deleteVolume fleet request) s = (.ok (), t)) :
    t.faults = [] := by
  have kept := Site.run_keeps (K := fun u => u.faults = []) (fun call u hu => Site.answer_faultless hu rfl)
    (deleteVolume fleet request) faultless
  rwa [hok] at kept

/-- A second deletion finds nothing, if the first one had one disk to delete at most. -/
theorem deletion_repeats (faultless : s.faults = []) (hok : Site.run (deleteVolume fleet request) s = (.ok (), t))
    (once : ∀ v node storages, Ready fleet request s v node storages → ∀ a ∈ storages, ∀ b ∈ storages,
      Holds s.clusters v.region node a v.disk → Holds s.clusters v.region node b v.disk → a = b) :
    ∃ u, Site.run (deleteVolume fleet request) t = (.ok (), u) ∧ u.clusters = t.clusters ∧
      (Site.exchanges (deleteVolume fleet request) t).changing = [] := by
  obtain ⟨v, node, storages, calls, ready, clears⟩ := ready_of_ok faultless hok
  have free := clears.leaves_none (once v node storages ready)
  obtain ⟨u, more, again, cleared, changing⟩ :=
    (ready.again clears).deletes (harmless_of_faultless (faultless_after faultless hok))
  obtain ⟨same, none⟩ := cleared.kept free
  exact ⟨u, again, same, changing.trans none⟩

/-- If faults strike first, a deletion that fails leaves all disks. -/
theorem deletion_undone (prompt : s.Prompt) {f : Failure}
    (failed : Site.run (deleteVolume fleet request) s = (.error f, t)) (region : String) :
    (t.clusters region).map ClusterState.disks = (s.clusters region).map ClusterState.disks := by
  have run := Site.runsTo_exchanges (deleteVolume fleet request) s
  have replays := Site.replays_exchanges (deleteVolume fleet request) s
  rw [failed] at run replays
  have confined := deleteVolume_takes_confined fleet request _ _ run
  exact (Site.disks_of_failed prompt replays fun region r x mem mutates => confined.undone mem mutates).2 region

end

/-- **A deletion removes nothing but its disk.** Whatever the clusters answer, a deletion is `Confined`: it changes
nothing but by one call that deletes the disk of its handle, where the asked node listed the disk just before; it ends
well without that call only if every storage that it searched lacks the disk or is absent; and it tells of any other
failure and asks nothing more. If faults strike first, a deletion that fails leaves all disks. Without faults a deletion
that is told all that it needs ends well, and a second one ends well and changes nothing, if one of the storages held
the disk at most. -/
theorem deleteVolume_confined {κ : Type} (fleet : Fleet κ) (request : DeleteVolumeRequest) :
    (∀ outcome made, (deleteVolume fleet request).RunsTo anyAnswers [] outcome made →
      Confined request.volumeId outcome made) ∧
      (∀ s t f, s.Prompt → Site.run (deleteVolume fleet request) s = (.error f, t) →
        ∀ region, (t.clusters region).map ClusterState.disks = (s.clusters region).map ClusterState.disks) ∧
      ∀ s, s.faults = [] →
        (∀ v node storages, Ready fleet request s v node storages →
          (Site.run (deleteVolume fleet request) s).1 = .ok ()) ∧
        ∀ t, Site.run (deleteVolume fleet request) s = (.ok (), t) →
          (∀ v node storages, Ready fleet request s v node storages → ∀ a ∈ storages, ∀ b ∈ storages,
            Holds s.clusters v.region node a v.disk → Holds s.clusters v.region node b v.disk → a = b) →
          ∃ u, Site.run (deleteVolume fleet request) t = (.ok (), u) ∧ u.clusters = t.clusters ∧
            (Site.exchanges (deleteVolume fleet request) t).changing = [] := by
  refine ⟨deleteVolume_takes_confined fleet request, ?_, fun s faultless => ⟨?_, ?_⟩⟩
  · intro s t f prompt failed
    exact deletion_undone prompt failed
  · intro v node storages ready
    obtain ⟨t, calls, run, -⟩ := ready.deletes (harmless_of_faultless faultless)
    rw [run]
  · intro t hok once
    exact deletion_repeats faultless hok once

/-! ### A node with several storages -/

namespace Mixed

/-- A node of the region lists three storages. It does not have the first one, the second one holds a disk of an older
volume, and the third one holds a disk whose name goes on. -/
def cluster : ClusterState where
  members := [{ kind := "node", name := "z1", online := true }]
  storageResources := ["gone", "data", "more"].map fun storage => { node := "z1", storage := some storage }
  storages := [⟨"z1", "data", {}⟩, ⟨"z1", "more", {}⟩]
  disks := [⟨"z1", "data", { volid := "data:vm-9999-old" }⟩, ⟨"z1", "more", { volid := "more:vm-9999-old-2" }⟩]

def site : Site where
  clusters := Keyed.empty.put "r1" (some cluster)

/-- The cluster cannot be reached when it is to delete a disk. -/
def cut : Site :=
  { site with faults := [{ concerns := fun call => call.changesDisks, failure := .transport }] }

def request : DeleteVolumeRequest :=
  ⟨"r1/z1/vm-9999-old"⟩

/-- The region after the volume was deleted. -/
def deleted : Site :=
  (Site.run (deleteVolume Uneven.fleet request) site).2

theorem deletes : Site.run (deleteVolume Uneven.fleet request) site = (.ok (), deleted) := by
  have ended : (Site.run (deleteVolume Uneven.fleet request) site).1.isOk = true := by decide +kernel
  cases h : (Site.run (deleteVolume Uneven.fleet request) site).1 with
  | error f => rw [h] at ended; cases ended
  | ok a => exact Prod.ext h rfl

/-- One storage holds the disk. -/
theorem once (v : VolumeHandle) (node : String) (storages : List String)
    (ready : Ready Uneven.fleet request site v node storages) : ∀ storage ∈ storages,
      Holds site.clusters v.region node storage v.disk → storage = "data" := by
  obtain rfl : v = ⟨"r1", "z1", "", "vm-9999-old"⟩ := Except.ok.inj (ready.read.symm.trans rfl)
  obtain rfl : node = "z1" := ready.asked
  obtain ⟨c, there, rfl⟩ := ready.searched
  obtain rfl : cluster = c := Option.some.inj there
  rintro storage mem ⟨c, there, entry, listed⟩
  obtain rfl : cluster = c := Option.some.inj there
  have kept : ∀ storage ∈ storagesIn "z1" cluster.storageResources, (cluster.entry? "z1" storage).isSome = true →
      (∃ v ∈ cluster.disksOn "z1" storage, v.volid = storage ++ ":" ++ "vm-9999-old") → storage = "data" := by
    decide +kernel
  exact kept storage mem entry (ClusterState.lists_iff.mp listed)

end Mixed

/-- The disk of an older volume is deleted from the one storage that holds it, and deleted again; or the cluster cannot
be reached, and the disk is left. -/
theorem deleteVolume_confined_mixed :
    Confined Mixed.request.volumeId (.ok ()) (Site.exchanges (deleteVolume Uneven.fleet Mixed.request) Mixed.site) ∧
      (Site.exchanges (deleteVolume Uneven.fleet Mixed.request) Mixed.site).changing.length = 1 ∧
      (∃ f t, Site.run (deleteVolume Uneven.fleet Mixed.request) Mixed.cut = (.error f, t) ∧
        (t.clusters "r1").map ClusterState.disks = some Mixed.cluster.disks) ∧
      ∃ u, Site.run (deleteVolume Uneven.fleet Mixed.request) Mixed.deleted = (.ok (), u) ∧
        u.clusters = Mixed.deleted.clusters := by
  obtain ⟨confined, undone, faultless⟩ := deleteVolume_confined Uneven.fleet Mixed.request
  refine ⟨?_, by decide +kernel, ?_, ?_⟩
  · have run := Site.runsTo_exchanges (deleteVolume Uneven.fleet Mixed.request) Mixed.site
    rw [Mixed.deletes] at run
    exact confined _ _ run
  · have ended : (Site.run (deleteVolume Uneven.fleet Mixed.request) Mixed.cut).1.isOk = false := by decide +kernel
    have prompt : Mixed.cut.Prompt := by simp [Site.Prompt, Mixed.cut]
    cases run : Site.run (deleteVolume Uneven.fleet Mixed.request) Mixed.cut with
    | mk outcome t =>
      rw [run] at ended
      cases outcome with
      | ok a => cases ended
      | error f => exact ⟨f, t, rfl, undone Mixed.cut t f prompt run "r1"⟩
  · have once : ∀ v node storages, Ready Uneven.fleet Mixed.request Mixed.site v node storages → ∀ a ∈ storages,
        ∀ b ∈ storages, Holds Mixed.site.clusters v.region node a v.disk →
        Holds Mixed.site.clusters v.region node b v.disk → a = b := by
      intro v node storages ready a ha b hb holdsA holdsB
      exact (Mixed.once v node storages ready a ha holdsA).trans (Mixed.once v node storages ready b hb holdsB).symm
    obtain ⟨u, again, same, -⟩ := (faultless Mixed.site rfl).2 Mixed.deleted Mixed.deletes once
    exact ⟨u, again, same⟩

end Provisioning

end ClusterVolumes
