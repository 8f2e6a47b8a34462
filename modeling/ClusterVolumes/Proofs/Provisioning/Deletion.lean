import ClusterVolumes.Proofs.Site.Disks
import ClusterVolumes.Proofs.Volume.HandleText
import ClusterVolumes.Provisioning.Create
import ClusterVolumes.Provisioning.Delete

/-!
# What a deletion leaves

A volume is made on a node that has its storage, but a volume that all nodes share is deleted through the first node
that is online. If that node does not have the storage it says so, the deletion takes this for an answer, and the disk
stays. `deleteVolume_leaves_iff` says that this is the only way in which a deletion that ends well leaves the disk of a
volume that was made, and `deleteVolume_leaves_disk` shows a disk that is left.
-/

namespace ClusterVolumes

open Csi
open Service

namespace Provisioning

/-! ## Where a disk is -/

/-- A node is the first one of its region that is online. -/
def FirstOnline (s : Site) (region node : String) : Prop :=
  s.InRegion region fun c => ∃ m, c.members.find? Fleet.isOnlineNode = some m ∧ m.name = node

/-- A node that has the storage of a volume, and is its node if it has one, lists the disk. -/
def Left (s : Site) (v : VolumeHandle) (node : String) : Prop :=
  (v.zone = "" ∨ node = v.zone) ∧
    s.InRegion v.region fun c => (c.entry? node v.storage).isSome = true ∧ c.Lists node v.storage v.volid

/-- What a deletion makes of a cluster that asks a node: if the node has the storage, the disk is gone from where the
node keeps it. -/
structure DeletedFrom (v : VolumeHandle) (node : String) (c c' : Site.ClusterState) : Prop where
  storages : c'.storages = c.storages
  lists : ∀ n, c'.Lists n v.storage v.volid ↔ c.Lists n v.storage v.volid ∧
    ¬((c.entry? node v.storage).isSome = true ∧ c.diskHome n v.storage = c.diskHome node v.storage)

variable {v : VolumeHandle} {node : String} {c : Site.ClusterState} {s t : Site}

/-- Where the node has no such disk there is nothing to delete. -/
theorem deletedFrom_refl (h : (c.entry? node v.storage).isSome = true → ¬c.Lists node v.storage v.volid) :
    DeletedFrom v node c c where
  storages := rfl
  lists := fun _ => ⟨fun hl => ⟨hl, fun ⟨he, hh⟩ => h he ((Site.ClusterState.lists_congr hh).mp hl)⟩, fun hl => hl.1⟩

/-- A call that asks no cluster leaves what was deleted. -/
theorem inRegion_of_other {region : String} {K : Site.ClusterState → Prop} {call : Call} {x : call.Answer}
    (h : s.InRegion region K) (hcall : ∀ region r, call ≠ .cluster region r) (e : Site.answering s call x t) :
    t.InRegion region K :=
  h.answer e (fun _ h => h) fun r _ e => absurd e (hcall region r)

/-! ## Deleting -/

/-- The node is asked for the disk, and if it lists it the disk is deleted. -/
theorem deleteFrom_ensures (id : String) (hc : s.clusters v.region = some c)
    (hf : ∀ f, s.Strikes f → meansAbsent f = false) :
    Ensures Site.answering (fun _ _ => True) (deleteFrom id node v)
      (fun _ t => t.InRegion v.region (DeletedFrom v node c)) (fun _ _ => True) s := by
  unfold deleteFrom
  refine ensures_bind.mpr (ensures_attempt.mpr (ensures_cluster.mpr ⟨trivial, fun x t e => ?_⟩))
  cases x with
  | error f =>
    simp only [onOutcome]
    split
    · rename_i habsent
      refine ensures_pure.mpr ?_
      rcases Site.answer_cluster e with ⟨f', hx, _, hwhy⟩ | ⟨c', hc', hx, ht⟩ | ⟨c', f', _, hx, hstrikes, _⟩
      · cases hx
        rcases hwhy with hstrikes | ⟨hnone, _⟩
        · exact absurd habsent (by simp [hf f hstrikes])
        · exact absurd hnone (by simp [hc])
      · obtain rfl : c' = c := Option.some.inj (hc'.symm.trans hc)
        simp only [Site.ClusterState.answer] at hx ht
        split at hx
        · cases hx
        · rename_i hentry
          rw [if_neg hentry] at ht
          exact ⟨c', ht ▸ Keyed.put_self _ _ _, deletedFrom_refl fun h => absurd h hentry⟩
      · cases hx
        exact absurd habsent (by simp [hf f hstrikes])
    · trivial
  | ok content =>
    obtain ⟨c', hc', hok, ht⟩ := Site.answer_cluster_ok e
    obtain rfl : c' = c := Option.some.inj (hc'.symm.trans hc)
    simp only [Site.ClusterState.answer] at hok ht
    split at hok
    · rename_i hentry
      rw [if_pos hentry] at ht
      cases hok
      have same : t.clusters v.region = some c' := ht ▸ Keyed.put_self _ _ _
      simp only [onOutcome]
      split
      · refine ensures_bind.mpr (ensures_rewording.mpr (ensures_cluster.mpr ⟨trivial, fun y u e' => ?_⟩))
        cases y with
        | error f => trivial
        | ok a =>
          obtain ⟨c₂, hc₂, -, hu⟩ := Site.answer_cluster_ok e'
          obtain rfl : c₂ = c' := Option.some.inj (hc₂.symm.trans same)
          refine ⟨_, hu ▸ Keyed.put_self _ _ _, Site.ClusterState.storages_answer _ _ _, fun n => ?_⟩
          simp [Site.ClusterState.lists_deleteDisk, hentry]
      · rename_i hno
        refine ⟨c', same, deletedFrom_refl fun _ hl => hno ?_⟩
        simpa using Site.ClusterState.lists_iff.mp hl
    · cases hok

/-- On the one storage that a handle names, the disk is deleted under the lock of the handle. -/
theorem deleteFromFirst_ensures (id : String) (hst : v.storage.isEmpty = false) (hc : s.clusters v.region = some c)
    (hf : ∀ f, s.Strikes f → meansAbsent f = false) :
    Ensures Site.answering (fun _ _ => True) (storagesOf id node v >>= fun l => deleteFromFirst id node v l)
      (fun _ t => t.InRegion v.region (DeletedFrom v node c)) (fun _ _ => True) s := by
  unfold storagesOf
  rw [hst]
  refine ensures_bind.mpr (ensures_pure.mpr (ensures_bind.mpr ?_))
  refine Ensures.holding trivial fun x t e => ?_
  obtain rfl : { s with held := v.text :: s.held } = t := (Prod.mk.inj e).2
  have asked : Ensures Site.answering (fun _ _ => True) (deleteFrom id node v)
      (fun _ t => t.InRegion v.region (DeletedFrom v node c)) (fun _ _ => True) { s with held := v.text :: s.held } :=
    deleteFrom_ensures id hc hf
  refine asked.post (fun deleted u hu => ⟨trivial, fun y w e => ?_⟩) fun _ _ _ => ⟨trivial, fun _ _ _ => trivial⟩
  have hw := inRegion_of_other hu (fun _ _ h => by cases h) e
  cases deleted <;> exact hw

/-- What a deletion that ends well asked of which node. -/
theorem deleteVolume_ensures {κ : Type} (fleet : Fleet κ) {request : DeleteVolumeRequest}
    (hv : VolumeHandle.parseLegacy request.volumeId = .ok v) (hst : v.storage.isEmpty = false)
    (hc : s.clusters v.region = some c) (hf : ∀ f, s.Strikes f → meansAbsent f = false) :
    Ensures Site.answering (fun _ _ => True) (deleteVolume fleet request)
      (fun _ t => ∃ node, (if v.zone = "" then FirstOnline s v.region node else node = v.zone) ∧
        t.InRegion v.region (DeletedFrom v node c)) (fun _ _ => True) s := by
  unfold deleteVolume
  simp only
  split
  · exact trivial
  refine ensures_bind.mpr (ensures_ofExcept.mpr ?_)
  rw [hv]
  refine ensures_bind.mpr (ensures_ofExcept.mpr ?_)
  cases fleet.get v.region with
  | error f => exact trivial
  | ok access =>
    simp only [onOutcome]
    split
    · rename_i hz
      unfold Fleet.firstOnlineNode
      refine ensures_bind.mpr (ensures_rewording.mpr (ensures_bind.mpr ?_))
      refine ensures_cluster.mpr ⟨trivial, fun x t e => ?_⟩
      cases x with
      | error f => trivial
      | ok members =>
        obtain ⟨c', hc', hok, ht⟩ := Site.answer_cluster_ok e
        obtain rfl : c' = c := Option.some.inj (hc'.symm.trans hc)
        cases hok
        simp only [onOutcome]
        split
        · rename_i m hm
          have hf' : ∀ f, t.Strikes f → meansAbsent f = false := fun f h => hf f ((Site.answer_strikes e f).mp h)
          refine (deleteFromFirst_ensures _ hst (ht ▸ Keyed.put_self _ _ _) hf').post
            (fun _ u hu => ⟨m.name, ?_, hu⟩) fun _ _ h => h
          rw [if_pos (String.isEmpty_iff.mp hz)]
          exact ⟨c', hc, m, hm, rfl⟩
        · trivial
    · rename_i hz
      refine (deleteFromFirst_ensures _ hst hc hf).post (fun _ u hu => ⟨v.zone, ?_, hu⟩) fun _ _ h => h
      rw [if_neg fun h => hz (String.isEmpty_iff.mpr h)]

/-- A region has one first node that is online. -/
theorem FirstOnline.unique {region n n' : String} (h : FirstOnline s region n) (h' : FirstOnline s region n') :
    n = n' := by
  obtain ⟨c, hc, m, hm, rfl⟩ := h
  obtain ⟨c', hc', m', hm', rfl⟩ := h'
  obtain rfl : c' = c := Option.some.inj (hc'.symm.trans hc)
  exact congrArg _ (Option.some.inj (hm.symm.trans hm'))

/-- A disk is left exactly if it is one that all nodes share, and the first node that is online does not look where it
is. -/
theorem left_iff {κ : Type} (fleet : Fleet κ) {request : DeleteVolumeRequest}
    (hv : VolumeHandle.parseLegacy request.volumeId = .ok v) (hst : v.storage.isEmpty = false)
    (hf : ∀ f, s.Strikes f → meansAbsent f = false) (hok : Site.run (deleteVolume fleet request) s = (.ok (), t)) :
    (∃ node, Left t v node) ↔ v.zone = "" ∧ ∃ n, FirstOnline s v.region n ∧ ∃ node, Left s v node ∧
      s.InRegion v.region fun c => c.entry? n v.storage = none ∨
        c.diskHome n v.storage ≠ c.diskHome node v.storage := by
  cases hc : s.clusters v.region with
  | none =>
    have gone : t.clusters v.region = none := by
      have h := Site.run_without (deleteVolume fleet request) hc
      rw [hok] at h
      exact h
    constructor
    · rintro ⟨_, _, c, hc', _⟩
      exact nomatch gone.symm.trans hc'
    · rintro ⟨_, _, ⟨c, hc', _⟩, _⟩
      exact nomatch hc.symm.trans hc'
  | some c =>
    have ended := Site.run_ended (deleteVolume_ensures fleet hv hst hc hf)
    rw [hok] at ended
    obtain ⟨node, hnode, c', ht, deleted⟩ := ended
    have entries : ∀ n, c'.entry? n v.storage = c.entry? n v.storage := fun n => by
      unfold Site.ClusterState.entry?
      rw [deleted.storages]
    constructor
    · rintro ⟨n, hn, c₁, hc₁, he, hl⟩
      obtain rfl : c₁ = c' := Option.some.inj (hc₁.symm.trans ht)
      obtain ⟨hl, hno⟩ := (deleted.lists n).mp hl
      rw [entries] at he
      split at hnode
      · rename_i hz
        refine ⟨hz, node, hnode, n, ⟨.inl hz, c, hc, he, hl⟩, c, hc, ?_⟩
        cases hentry : c.entry? node v.storage with
        | none => exact .inl hentry
        | some entry => exact .inr fun hh => hno ⟨by simp [hentry], hh.symm⟩
      · rename_i hz
        obtain rfl : n = node := (hn.resolve_left hz).trans hnode.symm
        exact absurd ⟨he, rfl⟩ hno
    · rintro ⟨hz, n, hfirst, node', ⟨hn, c₁, hc₁, he, hl⟩, c₂, hc₂, hwhy⟩
      obtain rfl : c₁ = c := Option.some.inj (hc₁.symm.trans hc)
      obtain rfl : c₂ = c₁ := Option.some.inj (hc₂.symm.trans hc)
      rw [if_pos hz] at hnode
      obtain rfl := hfirst.unique hnode
      refine ⟨node', hn, c', ht, (entries node').symm ▸ he, (deleted.lists node').mpr ⟨hl, fun ⟨he', hh⟩ => ?_⟩⟩
      rcases hwhy with hnone | hne
      · simp [hnone] at he'
      · exact hne hh.symm

/-! ## Creating -/

/-- The handle of a volume that was made: its zone is empty only if the nodes share the storage. -/
def MadeFrom (plan : Plan) (name id : String) (t : Site) : Prop :=
  ∃ zone, id = (handleOf plan name zone).text ∧ (zone = "" ∨ zone = plan.placement.landsOn) ∧
    (zone = "" → t.InRegion plan.region fun c => c.isShared plan.options.storage = true)

/-- Make a volume when its plan and the node to ask are known. -/
def createOn (plan : Plan) (name node : String) : Service CreateVolumeResponse := do
  let status ← (Service.cluster plan.region (.storageStatus node plan.options.storage)).rewording asInvalid
  let zone ← Service.ofExcept (zoneOf plan node status)
  let volume := handleOf plan name zone
  Service.holding volume.text (ensureDisk plan node volume)
  pure (responseFor plan volume)

/-- A volume is made on a node, which is the one that was asked for if there is one. -/
theorem createOn_ensures (plan : Plan) (name node : String)
    (hn : plan.placement.landsOn.isEmpty = false → node = plan.placement.landsOn) :
    Ensures Site.answering (fun _ _ => True) (createOn plan name node)
      (fun response t => MadeFrom plan name response.volume.volumeId t) (fun _ _ => True) s := by
  refine ensures_bind.mpr (ensures_rewording.mpr (ensures_cluster.mpr ⟨trivial, fun x t e => ?_⟩))
  cases x with
  | error f => trivial
  | ok status =>
    refine ensures_bind.mpr (ensures_ofExcept.mpr ?_)
    cases hzone : zoneOf plan node status with
    | error f => trivial
    | ok zone =>
      have made : (zone = "" ∨ zone = plan.placement.landsOn) ∧
          (zone = "" → t.InRegion plan.region fun c => c.isShared plan.options.storage = true) := by
        unfold zoneOf at hzone
        split at hzone
        · rename_i hshared
          cases hzone
          obtain ⟨c, hc, hok, -⟩ := Site.answer_cluster_ok e
          refine ⟨.inl rfl, fun _ => Site.inRegion_isShared ⟨c, hc, ?_⟩ e⟩
          simp only [Site.ClusterState.answer] at hok
          split at hok
          · rename_i entry hentry
            exact Site.ClusterState.isShared_of_entry hentry (Except.ok.inj hok ▸ hshared)
          · cases hok
        · split at hzone
          · cases hzone
          · rename_i hne
            cases hzone
            obtain rfl := hn (by simpa using hne)
            exact ⟨.inr rfl, fun hz => absurd (String.isEmpty_iff.mpr hz) hne⟩
      have held : Ensures Site.answering (fun _ _ => True)
          (Service.holding (handleOf plan name zone).text (ensureDisk plan node (handleOf plan name zone)))
          (fun _ _ => True) (fun _ _ => True) t := ensures_trivial
      have kept := held.and_invariant (K := fun u => zone = "" → u.InRegion plan.region fun c =>
        c.isShared plan.options.storage = true) (fun _ _ _ _ h _ e hz => Site.inRegion_isShared (h hz) e) made.2
      exact ensures_bind.mpr (kept.mono (fun _ _ h => h.1) (fun _ u hu => ⟨zone, rfl, made.1, hu.2⟩) fun _ _ h => h.1)

/-- A volume that is made tells of where it was made. -/
theorem createVolume_ensures {κ : Type} (fleet : Fleet κ) (request : CreateVolumeRequest) :
    Ensures Site.answering (fun _ _ => True) (createVolume fleet request)
      (fun response t => ∃ plan, planOf fleet request = .ok plan ∧
        MadeFrom plan request.name response.volume.volumeId t) (fun _ _ => True) s := by
  unfold createVolume
  refine ensures_bind.mpr (ensures_ofExcept.mpr ?_)
  cases hplan : planOf fleet request with
  | error f => trivial
  | ok plan =>
    simp only [onOutcome]
    split
    · rename_i hempty
      unfold Fleet.firstOnlineNode
      refine ensures_bind.mpr (ensures_bind.mpr (ensures_cluster.mpr ⟨trivial, fun x t e => ?_⟩))
      cases x with
      | error f => trivial
      | ok members =>
        simp only [onOutcome]
        split
        · rename_i m hm
          exact (createOn_ensures plan request.name m.name fun h => absurd hempty (by simp [h])).post
            (fun _ _ h => ⟨plan, rfl, h⟩) fun _ _ h => h
        · trivial
    · exact (createOn_ensures plan request.name _ fun _ => rfl).post (fun _ _ h => ⟨plan, rfl, h⟩) fun _ _ h => h

/-- A site comes from another one by the making of volumes. -/
inductive Creates {κ : Type} (fleet : Fleet κ) (s : Site) : Site → Prop
  | refl : Creates fleet s s
  | create {t : Site} (request : CreateVolumeRequest) :
      Creates fleet s t → Creates fleet s (Site.run (createVolume fleet request) t).2

/-- Whether nodes share a storage stays while volumes are made. -/
theorem Creates.inRegion_isShared {κ : Type} {fleet : Fleet κ} {region storage : String} (h : Creates fleet s t)
    (hs : s.InRegion region fun c => c.isShared storage = true) :
    t.InRegion region fun c => c.isShared storage = true := by
  induction h with
  | refl => exact hs
  | create request _ ih =>
    exact Site.run_keeps (K := fun u => u.InRegion region fun c => c.isShared storage = true)
      (fun call u hu => Site.inRegion_isShared hu (rfl : Site.answer call u = ((Site.answer call u).1, _))) _ ih

/-- A deletion that ends well has read its handle. -/
theorem parse_of_deleteVolume {κ : Type} (fleet : Fleet κ) (request : DeleteVolumeRequest)
    (hok : Site.run (deleteVolume fleet request) s = (.ok (), t)) :
    ∃ v, VolumeHandle.parseLegacy request.volumeId = .ok v := by
  have read : Ensures Site.answering (fun _ _ => True) (deleteVolume fleet request)
      (fun _ _ => ∃ v, VolumeHandle.parseLegacy request.volumeId = .ok v) (fun _ _ => True) s := by
    unfold deleteVolume
    simp only
    split
    · exact trivial
    refine ensures_bind.mpr (ensures_ofExcept.mpr ?_)
    cases hv : VolumeHandle.parseLegacy request.volumeId with
    | error f => trivial
    | ok v => exact ensures_trivial.post (fun _ _ _ => ⟨v, rfl⟩) fun _ _ h => h
  have ended := Site.run_ended read
  rw [hok] at ended
  exact ended

/-- **What a deletion leaves.** A volume was made, others may have been made since, and no fault speaks of absence.
A deletion of the volume that ends well leaves its disk exactly if the handle names no node, some node lists the disk,
and the first node that is online does not look where it is. If the names hold no slash, this is so only because that
node does not have the storage. -/
theorem deleteVolume_leaves_iff {κ : Type} (fleet : Fleet κ) (create : CreateVolumeRequest) (s₀ s s' : Site)
    (response : CreateVolumeResponse) (hcreate : (Site.run (createVolume fleet create) s₀).1 = .ok response)
    (hreach : Creates fleet (Site.run (createVolume fleet create) s₀).2 s)
    (hfaults : ∀ f, s.Strikes f → meansAbsent f = false)
    (hdelete : Site.run (deleteVolume fleet ⟨response.volume.volumeId⟩) s = (.ok (), s')) :
    ∃ v, VolumeHandle.parseLegacy response.volume.volumeId = .ok v ∧
      ((∃ node, Left s' v node) ↔ v.zone = "" ∧ ∃ n, FirstOnline s v.region n ∧ ∃ node, Left s v node ∧
        s.InRegion v.region fun c => c.entry? n v.storage = none ∨
          c.diskHome n v.storage ≠ c.diskHome node v.storage) ∧
      ∀ plan, planOf fleet create = .ok plan → '/' ∉ plan.region.toList → '/' ∉ plan.placement.landsOn.toList →
        '/' ∉ plan.options.storage.toList →
          ((∃ node, Left s' v node) ↔ v.zone = "" ∧ (∃ node, Left s v node) ∧
            ∃ n, FirstOnline s v.region n ∧ s.InRegion v.region fun c => c.entry? n v.storage = none) := by
  obtain ⟨v, hv⟩ := parse_of_deleteVolume fleet _ hdelete
  have created := Site.run_ended (createVolume_ensures (s := s₀) fleet create)
  rw [hcreate] at created
  obtain ⟨plan, hplan, zone, hid, hzone, hshared⟩ := created
  have hparse := hv
  rw [hid, VolumeHandle.parseLegacy_text] at hparse
  obtain ⟨-, -, hst⟩ := VolumeHandle.parse_ok hparse
  have leaves := left_iff fleet hv hst hfaults hdelete
  refine ⟨v, hv, leaves, fun plan' hplan' hregion hlands hstorage => leaves.trans ?_⟩
  obtain rfl : plan = plan' := Except.ok.inj (hplan.symm.trans hplan')
  have free : (handleOf plan create.name zone).SlashFree := by
    refine ⟨hregion, ?_, hstorage⟩
    rcases hzone with rfl | rfl
    · exact List.not_mem_nil
    · exact hlands
  obtain rfl := VolumeHandle.parse_text free hparse
  constructor
  · rintro ⟨hz, n, hfirst, node, hleft, hwhy⟩
    obtain ⟨c, hc, hshared, hwhy⟩ := (hreach.inRegion_isShared (hshared hz)).and hwhy
    refine ⟨hz, ⟨node, hleft⟩, n, hfirst, c, hc, hwhy.resolve_right fun hne => hne ?_⟩
    exact (Site.ClusterState.diskHome_shared hshared _).trans (Site.ClusterState.diskHome_shared hshared _).symm
  · rintro ⟨hz, ⟨node, hleft⟩, n, hfirst, hnone⟩
    exact ⟨hz, n, hfirst, node, hleft, hnone.mono fun _ h => .inl h⟩

/-! ## A storage that one of two nodes has -/

namespace Uneven

/-- The driver's one region. -/
def fleet : Fleet Unit :=
  ⟨⟨[("r1", ())], by decide⟩⟩

/-- The region: both nodes are online, and the second one has a storage that is to be shared. -/
def site : Site where
  clusters := Keyed.empty.put "r1" (some
    { members := [{ kind := "node", name := "z1", online := true }, { kind := "node", name := "z2", online := true }]
      storages := [⟨"z2", "data", { shared := true }⟩] })

/-- A volume on the second node. -/
def request : CreateVolumeRequest where
  name := "pvc-1"
  volumeCapabilities := [{}]
  parameters := (∅ : StringMap).insert "storage" "data"
  accessibilityRequirements := some
    { preferred := [⟨((∅ : StringMap).insert Label.region "r1").insert Label.zone "z2"⟩] }

/-- The handle of the volume. -/
def handle : VolumeHandle :=
  ⟨"r1", "", "data", "vm-9999-pvc-1"⟩

/-- The region with the volume. -/
def made : Site :=
  (Site.run (createVolume fleet request) site).2

/-- The region after the volume was deleted. -/
def deleted : Site :=
  (Site.run (deleteVolume fleet ⟨handle.text⟩) made).2

set_option maxRecDepth 4000 in
theorem creates : ∃ response, (Site.run (createVolume fleet request) site).1 = .ok response ∧
    response.volume.volumeId = handle.text := by
  have created : (Site.run (createVolume fleet request) site).1.toOption.map (·.volume.volumeId) =
      some handle.text := by decide +kernel
  cases h : (Site.run (createVolume fleet request) site).1 with
  | error f => rw [h] at created; cases created
  | ok response => rw [h] at created; exact ⟨response, rfl, Option.some.inj created⟩

theorem planned : ∃ plan, planOf fleet request = .ok plan ∧ plan.region = "r1" ∧ plan.placement.landsOn = "z2" ∧
    plan.options.storage = "data" := by
  have read : (planOf fleet request).toOption.map (fun p => (p.region, p.placement.landsOn, p.options.storage)) =
      some ("r1", "z2", "data") := by decide +kernel
  cases h : planOf fleet request with
  | error f => rw [h] at read; cases read
  | ok plan =>
    rw [h] at read
    simp only [Except.toOption, Option.map_some, Option.some.injEq, Prod.mk.injEq] at read
    exact ⟨plan, rfl, read⟩

set_option maxRecDepth 4000 in
theorem deletes : Site.run (deleteVolume fleet ⟨handle.text⟩) made = (.ok (), deleted) := by
  have ended : (Site.run (deleteVolume fleet ⟨handle.text⟩) made).1.isOk = true := by decide +kernel
  cases h : (Site.run (deleteVolume fleet ⟨handle.text⟩) made).1 with
  | error f => rw [h] at ended; cases ended
  | ok a => exact Prod.ext h rfl

set_option maxRecDepth 4000 in
theorem faultless (f : Failure) : ¬made.Strikes f := by
  have none_left : made.faults.isEmpty = true := by decide +kernel
  rintro ⟨fault, hmem, -⟩
  rw [List.isEmpty_iff.mp none_left] at hmem
  cases hmem

end Uneven

/-- A volume is made on a shared storage, and its deletion ends well: it leaves the disk because it asks a node that
does not have the storage. -/
theorem deleteVolume_leaves_iff_uneven : ∃ response,
    (Site.run (createVolume Uneven.fleet Uneven.request) Uneven.site).1 = .ok response ∧
      Site.run (deleteVolume Uneven.fleet ⟨response.volume.volumeId⟩) Uneven.made = (.ok (), Uneven.deleted) ∧
      ∃ v, VolumeHandle.parseLegacy response.volume.volumeId = .ok v ∧
        ((∃ node, Left Uneven.deleted v node) ↔ v.zone = "" ∧ (∃ node, Left Uneven.made v node) ∧
          ∃ n, FirstOnline Uneven.made v.region n ∧ Uneven.made.InRegion v.region fun c =>
            c.entry? n v.storage = none) := by
  obtain ⟨response, hok, hid⟩ := Uneven.creates
  have hdelete : Site.run (deleteVolume Uneven.fleet ⟨response.volume.volumeId⟩) Uneven.made =
      (.ok (), Uneven.deleted) := hid ▸ Uneven.deletes
  obtain ⟨plan, hplan, hregion, hlands, hstorage⟩ := Uneven.planned
  obtain ⟨v, hv, -, leaves⟩ := deleteVolume_leaves_iff Uneven.fleet Uneven.request Uneven.site Uneven.made
    Uneven.deleted response hok .refl (fun f h => absurd h (Uneven.faultless f)) hdelete
  exact ⟨response, hok, hdelete, v, hv, leaves plan hplan (by simp [hregion]) (by simp [hlands]) (by simp [hstorage])⟩

set_option maxRecDepth 4000 in
/-- A deletion that ends well leaves the disk of a volume that was made, on a node that has its storage. -/
theorem deleteVolume_leaves_disk : ∃ response v,
    (Site.run (createVolume Uneven.fleet Uneven.request) Uneven.site).1 = .ok response ∧
      VolumeHandle.parseLegacy response.volume.volumeId = .ok v ∧
      (Site.run (deleteVolume Uneven.fleet ⟨response.volume.volumeId⟩) Uneven.made).1 = .ok () ∧
      Left (Site.run (deleteVolume Uneven.fleet ⟨response.volume.volumeId⟩) Uneven.made).2 v "z2" := by
  obtain ⟨response, hok, hid⟩ := Uneven.creates
  have hparse : VolumeHandle.parseLegacy Uneven.handle.text = .ok Uneven.handle := rfl
  have left : (Uneven.deleted.clusters "r1").map (fun c => (c.entry? "z2" Uneven.handle.storage).isSome &&
      (c.disksOn "z2" Uneven.handle.storage).any fun v => v.volid = Uneven.handle.volid) = some true := by
    decide +kernel
  refine ⟨response, _, hok, hid ▸ hparse, ?_⟩
  rw [hid, Uneven.deletes]
  refine ⟨rfl, .inl rfl, ?_⟩
  obtain ⟨c, hc, he⟩ := Option.map_eq_some_iff.mp left
  rw [Bool.and_eq_true] at he
  exact ⟨c, hc, he.1, Site.ClusterState.lists_iff.mpr (by simpa using he.2)⟩

end Provisioning

end ClusterVolumes
