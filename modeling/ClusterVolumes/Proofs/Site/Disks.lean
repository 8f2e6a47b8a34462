import ClusterVolumes.Proofs.Site.Answers

/-!
# The disks of a site

No request changes the storages of a cluster, and with them where a node keeps and sees its disks (`storages_answer`).
A request that deletes no disk takes none away (`disks_subset_answer`), one that does not mutate adds none either
(`disks_answer`), and a deletion takes away the disks of one name that the asked node sees (`mem_disks_deleteDisk`).

`ClusterState.Lists` is what a node sees of a name (`lists_answer`, `lists_deleteDisk`), and `InRegion.answer` carries
what a request makes of a cluster to the calls of a site. After calls that change no disks all clusters keep the same
ones (`sameDisks_of_replays`).
-/

namespace ClusterVolumes.Site

open Hypervisor

/-! ## Clusters -/

namespace ClusterState

variable {c : ClusterState}

/-- Does a node see a disk of a name on a storage? -/
def Lists (c : ClusterState) (node storage volid : String) : Prop :=
  ∃ d ∈ c.disks, c.sees node storage d = true ∧ d.volume.volid = volid

/-- A disk is seen if it is on the list of the node. -/
theorem lists_iff {node storage volid : String} :
    c.Lists node storage volid ↔ ∃ v ∈ c.disksOn node storage, v.volid = volid := by
  simp only [Lists, disksOn, List.mem_map, List.mem_filter]
  constructor
  · rintro ⟨d, hd, hs, hv⟩
    exact ⟨d.volume, ⟨d, ⟨hd, hs⟩, rfl⟩, hv⟩
  · rintro ⟨v, ⟨d, ⟨hd, hs⟩, rfl⟩, hv⟩
    exact ⟨d, hd, hs, hv⟩

/-- Nodes that keep the disks of a storage in one place list the same. -/
theorem lists_congr {node node' storage volid : String} (h : c.diskHome node storage = c.diskHome node' storage) :
    c.Lists node storage volid ↔ c.Lists node' storage volid := by
  unfold Lists sees
  rw [h]

/-- The storages of a cluster stay, so disks are seen as before. -/
theorem lists_of_storages_eq {c' : ClusterState} (hs : c'.storages = c.storages) {node storage volid : String} :
    c'.Lists node storage volid ↔ ∃ d ∈ c'.disks, c.sees node storage d = true ∧ d.volume.volid = volid := by
  unfold Lists sees diskHome isShared
  rw [hs]

theorem storages_copy (region node storage volid target : String) :
    (c.copy region node storage volid target).2.storages = c.storages ∧
      c.disks ⊆ (c.copy region node storage volid target).2.disks := by
  have put : ∀ (c : ClusterState) (t : Task), (c.putTask t).storages = c.storages ∧ (c.putTask t).disks = c.disks := by
    intro c t
    unfold putTask
    split <;> exact ⟨rfl, rfl⟩
  unfold copy
  split
  · exact ⟨rfl, fun _ h => h⟩
  · simp only
    split
    · split
      · exact ⟨rfl, fun _ h => h⟩
      · simp only [(put _ _).1, (put _ _).2]
        exact ⟨rfl, List.subset_append_left _ _⟩
    · simp only [(put _ _).1, (put _ _).2]
      exact ⟨trivial, fun _ h => h⟩

theorem storages_look (region task : String) :
    (c.look region task).2.storages = c.storages ∧ (c.look region task).2.disks = c.disks := by
  unfold look
  split
  · exact ⟨rfl, rfl⟩
  · split
    · exact ⟨rfl, rfl⟩
    · simp only [putTask]
      split <;> exact ⟨rfl, rfl⟩

/-- No request changes the storages. -/
theorem storages_answer (region : String) (r : Request) (c : ClusterState) :
    (c.answer region r).2.storages = c.storages := by
  cases r with
  | resources kind => cases kind <;> rfl
  | storageStatus node storage => simp only [answer]; split <;> rfl
  | storageContent node storage => simp only [answer]; split <;> rfl
  | deleteDisk node storage volid => simp only [answer]; split <;> rfl
  | vmConfig node vmid => simp only [answer]; split <;> rfl
  | copyVolume node storage volid target => exact (storages_copy region node storage volid target).1
  | taskStatus node task => exact (storages_look region task).1
  | _ => rfl

/-- A request that does not mutate leaves all disks as they are. -/
theorem disks_answer {region : String} {r : Request} (hr : r.mutates = false) :
    (c.answer region r).2.disks = c.disks := by
  cases r with
  | resources kind => cases kind <;> rfl
  | storageStatus node storage => simp only [answer]; split <;> rfl
  | storageContent node storage => simp only [answer]; split <;> rfl
  | vmConfig node vmid => simp only [answer]; split <;> rfl
  | taskStatus node task => exact (storages_look region task).2
  | version => rfl
  | members => rfl
  | _ => cases hr

/-- A request that deletes no disk takes none away. -/
theorem disks_subset_answer {region : String} {r : Request}
    (hr : ∀ node storage volid, r ≠ .deleteDisk node storage volid) : c.disks ⊆ (c.answer region r).2.disks := by
  by_cases hm : r.mutates = false
  · rw [disks_answer hm]
    exact fun _ h => h
  · cases r with
    | createDisk node storage disk => exact List.subset_append_left _ _
    | deleteDisk node storage volid => exact absurd rfl (hr node storage volid)
    | copyVolume node storage volid target => exact (storages_copy region node storage volid target).2
    | _ => exact absurd rfl hm

/-- A deletion takes away the disks of the name that the node sees. -/
theorem mem_disks_deleteDisk {region node storage volid : String} {d : StoredDisk} :
    d ∈ (c.answer region (.deleteDisk node storage volid)).2.disks ↔
      d ∈ c.disks ∧ ¬(c.sees node storage d = true ∧ d.volume.volid = volid) := by
  simp only [answer]
  split
  · refine List.mem_filter.trans (and_congr_right fun _ => ?_)
    cases c.sees node storage d <;> simp
  · rename_i hno
    refine ⟨fun h => ⟨h, fun hs => hno ?_⟩, fun h => h.1⟩
    simp only [List.any_eq_true, decide_eq_true_eq]
    exact lists_iff.mp ⟨d, h, hs.1, hs.2⟩

/-- Disks are seen by their names and by where they are kept. -/
theorem sees_iff {node storage : String} {d : StoredDisk} :
    c.sees node storage d = true ↔ d.node = c.diskHome node storage ∧ d.storage = storage := by
  simp [sees]

theorem isShared_answer (region : String) (r : Request) (storage : String) (c : ClusterState) :
    (c.answer region r).2.isShared storage = c.isShared storage := by
  unfold isShared
  rw [storages_answer]

theorem lists_answer {region : String} {r : Request} (hr : ∀ node storage volid, r ≠ .deleteDisk node storage volid)
    {node storage volid : String} (h : c.Lists node storage volid) :
    (c.answer region r).2.Lists node storage volid := by
  obtain ⟨d, hd, h⟩ := h
  exact (lists_of_storages_eq (storages_answer region r c)).mpr ⟨d, disks_subset_answer hr hd, h⟩

theorem lists_answer_iff {region : String} {r : Request} (hr : r.mutates = false) {node storage volid : String} :
    (c.answer region r).2.Lists node storage volid ↔ c.Lists node storage volid := by
  rw [lists_of_storages_eq (storages_answer region r c), disks_answer hr]
  exact Iff.rfl

/-- After a deletion a disk is listed if it was, unless it has the name and is kept where the asked node looks. -/
theorem lists_deleteDisk {region node storage volid node' storage' volid' : String} :
    (c.answer region (.deleteDisk node' storage' volid')).2.Lists node storage volid ↔
      c.Lists node storage volid ∧
        ¬(storage = storage' ∧ volid = volid' ∧ c.diskHome node storage = c.diskHome node' storage') := by
  rw [lists_of_storages_eq (storages_answer region _ c)]
  constructor
  · rintro ⟨d, hd, hs, rfl⟩
    obtain ⟨hd, hno⟩ := mem_disks_deleteDisk.mp hd
    refine ⟨⟨d, hd, hs, rfl⟩, ?_⟩
    rintro ⟨rfl, rfl, hh⟩
    exact hno ⟨sees_iff.mpr ⟨(sees_iff.mp hs).1.trans hh, (sees_iff.mp hs).2⟩, rfl⟩
  · rintro ⟨⟨d, hd, hs, rfl⟩, hno⟩
    refine ⟨d, mem_disks_deleteDisk.mpr ⟨hd, fun ⟨hs', hv⟩ => hno ?_⟩, hs, rfl⟩
    obtain ⟨hn, rfl⟩ := sees_iff.mp hs
    obtain ⟨hn', he⟩ := sees_iff.mp hs'
    exact ⟨he, hv, by rw [← hn, hn']⟩

/-- What a node tells of a storage is there. -/
theorem lists_of_storageContent {region node storage volid : String} {content : List StorageVolume}
    (h : (c.answer region (.storageContent node storage)).1 = .ok content) (hv : ∃ v ∈ content, v.volid = volid) :
    c.Lists node storage volid := by
  simp only [answer] at h
  split at h
  · cases h
    exact lists_iff.mpr hv
  · cases h

/-- Nodes share a storage if one of them says so. -/
theorem isShared_of_entry {node storage : String} {e : StorageEntry} (he : c.entry? node storage = some e)
    (hs : e.status.shared = true) : c.isShared storage = true := by
  have hmem := List.mem_of_find?_eq_some he
  have hat := List.find?_some he
  simp only [Bool.and_eq_true, decide_eq_true_eq] at hat
  exact List.any_eq_true.mpr ⟨e, hmem, by simp [hat.2, hs]⟩

/-- Two nodes that do not share a storage keep their disks apart. -/
theorem diskHome_inj {storage node node' : String} (hs : c.isShared storage = false)
    (h : c.diskHome node storage = c.diskHome node' storage) : node = node' := by
  simpa [diskHome, hs] using h

/-- All nodes keep the disks of a shared storage in one place. -/
theorem diskHome_shared {storage : String} (hs : c.isShared storage = true) (node : String) :
    c.diskHome node storage = "" := by
  simp [diskHome, hs]

end ClusterState

/-! ## Regions -/

variable {s t : Site}

/-- The cluster of a region is there and as it is said. -/
def InRegion (s : Site) (region : String) (K : ClusterState → Prop) : Prop :=
  ∃ c, s.clusters region = some c ∧ K c

theorem InRegion.and {region : String} {K K' : ClusterState → Prop} (h : s.InRegion region K)
    (h' : s.InRegion region K') : s.InRegion region fun c => K c ∧ K' c := by
  obtain ⟨c, hc, h⟩ := h
  obtain ⟨c', hc', h'⟩ := h'
  obtain rfl : c' = c := Option.some.inj (hc'.symm.trans hc)
  exact ⟨c', hc, h, h'⟩

theorem InRegion.mono {region : String} {K K' : ClusterState → Prop} (h : s.InRegion region K)
    (hK : ∀ c, K c → K' c) : s.InRegion region K' := by
  obtain ⟨c, hc, h⟩ := h
  exact ⟨c, hc, hK c h⟩

/-- What the requests to a cluster make of it, calls make of its region. -/
theorem InRegion.answer {region : String} {K K' : ClusterState → Prop} (hs : s.InRegion region K) {call : Call}
    {x : call.Answer} (h : Site.answer call s = (x, t)) (same : ∀ c, K c → K' c)
    (hK : ∀ r c, call = .cluster region r → K c → K' (c.answer region r).2) : t.InRegion region K' := by
  obtain ⟨c, hc, hKc⟩ := hs
  refine answer_keeps_clusters (K := fun f => ∃ c, f region = some c ∧ K' c) h ⟨c, hc, same c hKc⟩ ?_
  intro region' r c' hcall hc'
  by_cases he : region = region'
  · subst he
    obtain rfl : c' = c := Option.some.inj (hc'.symm.trans hc)
    exact ⟨_, Keyed.put_self _ _ _, hK r c' hcall hKc⟩
  · exact ⟨c, (Keyed.put_of_ne _ _ he).trans hc, same c hKc⟩

/-- Whether nodes share a storage stays. -/
theorem inRegion_isShared {region storage : String} {b : Bool} (h : s.InRegion region fun c => c.isShared storage = b)
    {call : Call} {x : call.Answer} (e : Site.answer call s = (x, t)) :
    t.InRegion region fun c => c.isShared storage = b :=
  h.answer e (fun _ h => h) fun r c _ h => (ClusterState.isShared_answer region r storage c).trans h

/-- A disk that a cluster says to have made is there, under the name that the cluster gives it. -/
theorem inRegion_createDisk {region node storage : String} {disk : DiskRequest} {volid : String}
    (h : Site.answer (.cluster region (.createDisk node storage disk)) s = (.ok volid, t)) :
    t.InRegion region fun c => c.Lists node storage (ClusterState.newVolid storage disk) := by
  obtain ⟨c, -, -, ht⟩ := answer_cluster_ok h
  refine ⟨_, ht ▸ Keyed.put_self _ _ _, ?_⟩
  refine (ClusterState.lists_of_storages_eq (ClusterState.storages_answer region _ c)).mpr ?_
  refine ⟨_, List.mem_append_right _ (List.mem_singleton_self _), ?_, rfl⟩
  exact ClusterState.sees_iff.mpr ⟨rfl, rfl⟩

/-- What a cluster tells of a storage is there. -/
theorem inRegion_storageContent {region node storage volid : String} {content : List StorageVolume}
    (h : Site.answer (.cluster region (.storageContent node storage)) s = (.ok content, t))
    (hv : ∃ v ∈ content, v.volid = volid) : t.InRegion region fun c => c.Lists node storage volid := by
  obtain ⟨c, -, hok, ht⟩ := answer_cluster_ok h
  have listed : c.Lists node storage volid := ClusterState.lists_of_storageContent hok hv
  exact ⟨_, ht ▸ Keyed.put_self _ _ _, (ClusterState.lists_answer_iff rfl).mpr listed⟩

/-! ## Disks that stay -/

/-- Every cluster keeps the same disks. -/
def SameDisks (s t : Site) : Prop :=
  ∀ region, (t.clusters region).map ClusterState.disks = (s.clusters region).map ClusterState.disks

theorem SameDisks.refl (s : Site) : SameDisks s s :=
  fun _ => rfl

theorem SameDisks.trans {u : Site} (h : SameDisks s t) (h' : SameDisks t u) : SameDisks s u :=
  fun region => (h' region).trans (h region)

/-- A call that changes no disks leaves them as they are. -/
theorem sameDisks_answer {call : Call} (h : call.changesDisks = false) (s : Site) : SameDisks s (answer call s).2 := by
  intro region
  refine answer_keeps_clusters (t := (answer call s).2)
    (K := fun f => (f region).map ClusterState.disks = (s.clusters region).map ClusterState.disks) rfl rfl ?_
  rintro region' r c rfl there
  by_cases own : region = region'
  · subst own
    rw [Keyed.put_self, there]
    exact congrArg some (ClusterState.disks_answer h)
  · rw [Keyed.put_of_ne _ _ own]

/-- Exchanges in which no disk was changed lead to a site with the same disks. -/
theorem sameDisks_of_replays {made : History} (H : Program.Replays (I := collaborators) answer s made t)
    (calm : made.Without Call.changesDisks) : SameDisks s t := by
  induction H with
  | nil => exact .refl s
  | @cons past u call H ih =>
    obtain ⟨last, before⟩ := List.forall_mem_cons.mp calm
    exact (ih before).trans (sameDisks_answer last u)

end ClusterVolumes.Site
