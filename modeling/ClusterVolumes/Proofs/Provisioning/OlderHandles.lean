import ClusterVolumes.Proofs.Provisioning.Clearing

/-!
# Deletions by handles in the older form

A handle in the older form does not tell the storage, so all storages that are listed for the node are searched. If one
of them holds the disk, the deletion does what the deletion by the full handle does, whatever the other storages are:
they may seem absent, be listed more than once, and hold disks of similar names (`deletions_agree`). The two agree for
regions that have a name; a handle without one is refused in either form (`older_handle_without_region`).
-/

namespace ClusterVolumes

open Csi
open Site (ClusterState)

namespace Provisioning

section

variable {κ : Type} {fleet : Fleet κ} {r z d storage : String} {s : Site} {c : ClusterState}

/-- A region, a node and a disk have names in which no slash occurs. -/
structure Named (r z d : String) : Prop where
  region : r ≠ "" ∧ '/' ∉ r.toList
  zone : z ≠ "" ∧ '/' ∉ z.toList
  disk : d ≠ "" ∧ '/' ∉ d.toList

theorem isEmpty_of_ne {text : String} (h : text ≠ "") : text.isEmpty = false :=
  Bool.eq_false_iff.mpr fun empty => h (String.isEmpty_iff.mp empty)

/-- By a handle in the older form, all storages that are listed for the node are searched. -/
theorem Named.ready_older (h : Named r z d) (known : ∃ access, fleet.get r = .ok access)
    (there : s.clusters r = some c) :
    Ready fleet ⟨r ++ "/" ++ z ++ "/" ++ d⟩ s ⟨r, z, "", d⟩ z (storagesIn z c.storageResources) where
  read := by
    rw [VolumeHandle.parseLegacy_older h.region.2 h.zone.2 h.disk.2, isEmpty_of_ne h.region.1, isEmpty_of_ne h.disk.1]
    rfl
  known := known
  asked := by rw [if_neg h.zone.1]
  searched := by
    rw [if_pos rfl]
    exact ⟨c, there, rfl⟩

/-- By a full handle, its storage is searched. -/
theorem Named.ready_full (h : Named r z d) (known : ∃ access, fleet.get r = .ok access)
    (named : storage ≠ "" ∧ '/' ∉ storage.toList) :
    Ready fleet ⟨VolumeHandle.text ⟨r, z, storage, d⟩⟩ s ⟨r, z, storage, d⟩ z [storage] where
  read := by
    have file : VolumeHandle.isDisk d.toList = true := by
      rw [VolumeHandle.isDisk, Text.cutFirst_eq_none_iff.mpr h.disk.2]
    rw [VolumeHandle.parseLegacy_text]
    refine VolumeHandle.parse_eq_ok_iff.mpr ⟨rfl, ⟨h.region.2, h.zone.2, named.2⟩, ?_, ?_, ?_, file⟩
    · exact isEmpty_of_ne h.region.1
    · exact isEmpty_of_ne named.1
    · exact isEmpty_of_ne h.disk.1
  known := known
  asked := by rw [if_neg h.zone.1]
  searched := by rw [if_neg named.1]

end

/-- **Deletions by either form of handle.** All that is wrong at a site is that storages seem absent which do not hold
the disk. If one of the storages that are listed for a node holds it, both the handle in the older form and the full one
delete it, and nothing else: the clusters are the same afterwards. If no storage holds it, the deletion by the handle in
the older form ends well and changes nothing. -/
theorem deletions_agree {κ : Type} (fleet : Fleet κ) (r z d : String) (named : Named r z d)
    (known : ∃ access, fleet.get r = .ok access) (s : Site) (c : ClusterState) (there : s.clusters r = some c)
    (harmless : Harmless s d) :
    (∀ storage ∈ storagesIn z c.storageResources, storage ≠ "" ∧ '/' ∉ storage.toList →
      Holds s.clusters r z storage d →
      (∀ other ∈ storagesIn z c.storageResources, other ≠ storage → ¬Holds s.clusters r z other d) →
      ∃ t t', Site.run (deleteVolume fleet ⟨r ++ "/" ++ z ++ "/" ++ d⟩) s = (.ok (), t) ∧
        Site.run (deleteVolume fleet ⟨VolumeHandle.text ⟨r, z, storage, d⟩⟩) s = (.ok (), t') ∧
        t.clusters = t'.clusters ∧ ∃ c', t.clusters = s.clusters.put r (some c') ∧
          ∀ disk, disk ∈ c'.disks ↔
            disk ∈ c.disks ∧ ¬(c.sees z storage disk = true ∧ disk.volume.volid = storage ++ ":" ++ d)) ∧
      ((∀ storage ∈ storagesIn z c.storageResources, ¬Holds s.clusters r z storage d) →
        ∃ t, Site.run (deleteVolume fleet ⟨r ++ "/" ++ z ++ "/" ++ d⟩) s = (.ok (), t) ∧ t.clusters = s.clusters) := by
  obtain ⟨t, calls, run, clears, -⟩ := (named.ready_older known there).deletes harmless
  refine ⟨fun storage listed plain held only => ?_, fun free => ⟨t, run, (clears.kept free).1⟩⟩
  obtain ⟨t', calls', run', clears', -⟩ := (named.ready_full (s := s) known plain).deletes harmless
  have gone := clears.removed listed held only there
  have gone' := clears'.removed (List.mem_singleton_self storage) held
    (fun other mem different => absurd (List.mem_singleton.mp mem) different) there
  refine ⟨t, t', run, run', gone.trans gone'.symm, _, gone, fun disk => ?_⟩
  refine List.mem_filter.trans (and_congr_right fun _ => ?_)
  cases c.sees z storage disk <;> simp

/-- The disk of an older volume is deleted from the one storage of its node that holds it, as by its full handle. -/
theorem deletions_agree_mixed : ∃ t t',
    Site.run (deleteVolume Uneven.fleet ⟨"r1/z1/vm-9999-old"⟩) Mixed.site = (.ok (), t) ∧
      Site.run (deleteVolume Uneven.fleet ⟨"r1/z1/data/vm-9999-old"⟩) Mixed.site = (.ok (), t') ∧
      t.clusters = t'.clusters := by
  have named : Named "r1" "z1" "vm-9999-old" := ⟨by decide, by decide, by decide⟩
  have held : Holds Mixed.site.clusters "r1" "z1" "data" "vm-9999-old" :=
    ⟨Mixed.cluster, rfl, by decide +kernel, ClusterState.lists_iff.mpr (by decide +kernel)⟩
  have only : ∀ other ∈ storagesIn "z1" Mixed.cluster.storageResources, other ≠ "data" →
      ¬Holds Mixed.site.clusters "r1" "z1" other "vm-9999-old" := by
    intro other mem different held
    have ready : Ready Uneven.fleet Mixed.request Mixed.site _ "z1" _ := named.ready_older ⟨(), rfl⟩ rfl
    exact different (Mixed.once _ _ _ ready other mem held)
  obtain ⟨t, t', run, run', same, -⟩ := (deletions_agree Uneven.fleet "r1" "z1" "vm-9999-old" named ⟨(), rfl⟩ Mixed.site
    Mixed.cluster rfl (harmless_of_faultless rfl)).1 "data" (by decide) (by decide) held only
  exact ⟨t, t', run, run', same⟩

/-! ## A region without a name -/

namespace Nameless

/-- The driver's one region, which has an empty name. -/
def fleet : Fleet Unit :=
  ⟨⟨[("", ())], by decide⟩⟩

def site : Site where
  clusters := Keyed.empty.put "" (some Mixed.cluster)

end Nameless

/-- In a region without a name, a handle in the older form is refused, though one storage of the node holds the disk. -/
theorem older_handle_without_region : (∃ access, Nameless.fleet.get "" = .ok access) ∧
    Nameless.site.clusters "" = some Mixed.cluster ∧ Nameless.site.faults = [] ∧
    "data" ∈ storagesIn "z1" Mixed.cluster.storageResources ∧
    Holds Nameless.site.clusters "" "z1" "data" "vm-9999-old" ∧
    (∀ other ∈ storagesIn "z1" Mixed.cluster.storageResources, other ≠ "data" →
      ¬Holds Nameless.site.clusters "" "z1" other "vm-9999-old") ∧
    (Site.run (deleteVolume Nameless.fleet ⟨"/z1/vm-9999-old"⟩) Nameless.site).1 =
      .error (.invalidHandle "/z1/vm-9999-old" "expected region/zone/disk") := by
  have held : ∀ storage, Holds Nameless.site.clusters "" "z1" storage "vm-9999-old" ↔
      (Mixed.cluster.entry? "z1" storage).isSome = true ∧
        ∃ v ∈ Mixed.cluster.disksOn "z1" storage, v.volid = storage ++ ":" ++ "vm-9999-old" := by
    intro storage
    rw [← ClusterState.lists_iff]
    constructor
    · rintro ⟨c, there, entry, listed⟩
      obtain rfl : Mixed.cluster = c := Option.some.inj there
      exact ⟨entry, listed⟩
    · rintro ⟨entry, listed⟩
      exact ⟨Mixed.cluster, rfl, entry, listed⟩
  simp only [held]
  refine ⟨⟨(), rfl⟩, rfl, rfl, by decide, by decide +kernel, by decide +kernel, rfl⟩

end Provisioning

end ClusterVolumes
