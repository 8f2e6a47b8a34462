import ClusterVolumes.Proofs.Footprint
import ClusterVolumes.Proofs.Provisioning.Deletion

/-!
# The id of a volume and its disk

The id under which a volume is handed out is the text of a handle. It addresses the disk that was made exactly if the
region, the zone, the storage and the name hold no slash (`createVolume_addresses_iff`). A slash in one of the first
three moves the cuts of the text, and one in the name makes a folder of what stands before it, so that the id cannot be
read and the disk gets another name (`createVolume_hands_out_unreadable`).

What the plan of a request says is put together first (`planOf_sound`): its region and its storage are not empty, and
its format is one that a file name may tell. So the cluster gives the disk the name that the handle has
(`newVolid_diskFor`). The steps of making a volume are then followed at a site, together with the exchanges
(`createOn_handsOut`).
-/

namespace ClusterVolumes

open Csi
open Service

/-! ## Plans -/

namespace VolumeOptions

/-- The format of a volume, if it has one, is one that the end of a file name may tell. -/
def Formatted (o : VolumeOptions) : Prop :=
  ∀ f, o.format = some f → f ∈ VolumeHandle.formats

theorem formatted_read {f : OptionField} (hf : f ∈ fields) {raw : String} {o o' : VolumeOptions}
    (h : f.read raw o = .ok o') (ho : o.Formatted) : o'.Formatted := by
  have other : o'.format = o.format → o'.Formatted := fun e => by
    unfold Formatted
    rw [e]
    exact ho
  simp only [fields, List.mem_cons, List.not_mem_nil, or_false] at hf
  rcases hf with rfl | rfl | hf
  · cases h
    exact other rfl
  · simp only [OptionField.read] at h
    split at h
    · rename_i hword
      cases h
      intro format hformat
      simp only [nonempty] at hformat
      split at hformat
      · cases hformat
      · cases hformat
        simpa [VolumeHandle.formats] using hword
    · cases h
  · rcases hf with rfl | rfl | rfl | rfl | rfl | rfl | rfl | rfl | rfl | rfl <;> simp only [OptionField.read] at h <;>
      split at h <;> cases h <;> exact other rfl

theorem formatted_readFields {m : StringMap} : ∀ {l : List OptionField} {o o' : VolumeOptions}, l ⊆ fields →
    readFields m l o = .ok o' → o.Formatted → o'.Formatted
  | [], _, _, _, h, ho => by
    cases h
    exact ho
  | f :: l, o, o', hl, h, ho => by
    obtain ⟨hf, hl⟩ := List.cons_subset.mp hl
    unfold readFields at h
    split at h
    · exact formatted_readFields hl h ho
    · rename_i raw _
      cases hread : f.read raw o with
      | error e =>
        rw [hread] at h
        cases h
      | ok next =>
        rw [hread] at h
        exact formatted_readFields hl h (formatted_read hf hread ho)

/-- Only formats that a file name may tell are read. -/
theorem formatted_ofMap {m : StringMap} {o : VolumeOptions} (h : ofMap m = .ok o) : o.Formatted :=
  formatted_readFields (List.Subset.refl fields) h nofun

end VolumeOptions

theorem Topology.get?_ne {t : Topology} {label r : String} (h : t.get? label = some r) : r.isEmpty = false := by
  simpa using (Option.filter_eq_some_iff.mp h).2

/-- The region of an entry is not empty. -/
theorem Topology.region?_ne {t : Topology} {r : String} (h : t.region? = some r) : r.isEmpty = false := by
  unfold region? at h
  cases hown : t.get? Label.region with
  | some r' =>
    rw [hown] at h
    exact get?_ne (hown.trans h)
  | none =>
    rw [hown] at h
    exact get?_ne h

/-- The region that is gathered from entries is not empty. -/
theorem Placement.region_gather_ne : ∀ (l : List Topology) (p : Placement),
    (∀ r, p.region = some r → r.isEmpty = false) → ∀ r, (p.gather l).region = some r → r.isEmpty = false
  | [], _, h => h
  | t :: ts, p, h => by
    have absorbed : ∀ r, (p.absorb t).region = some r → r.isEmpty = false := by
      intro r hr
      unfold absorb at hr
      cases hp : p.region with
      | some r' =>
        rw [hp] at hr
        exact h r (hp.trans hr)
      | none =>
        rw [hp] at hr
        exact Topology.region?_ne hr
    unfold gather
    split
    · exact absorbed
    · exact region_gather_ne ts _ absorbed

namespace Provisioning

/-- What is known of a plan that was read from a request. -/
structure Plan.Sound (plan : Plan) : Prop where
  region_ne : plan.region.isEmpty = false
  storage_ne : plan.options.storage.isEmpty = false
  formatted : plan.options.Formatted

/-- What a plan was read from. -/
theorem planOf_read {κ : Type} {fleet : Fleet κ} {request : CreateVolumeRequest} {plan : Plan}
    (h : planOf fleet request = .ok plan) :
    VolumeOptions.ofMap request.parameters = .ok plan.options ∧ plan.options.storage.isEmpty = false ∧
      requestedSize request.capacityRange = .ok plan.size ∧
      (Placement.resolve (request.accessibilityRequirements.getD {})).region = some plan.region := by
  simp only [planOf, bind, Except.bind, throw, throwThe, MonadExceptOf.throw, pure, Except.pure] at h
  split at h
  · cases h
  split at h
  · cases h
  split at h
  · cases h
  rename_i options hoptions
  split at h
  · cases h
  rename_i hstorage
  split at h
  · cases h
  rename_i size hsize
  split at h
  · cases h
  rename_i region hregion
  split at h
  · cases h
  cases h
  exact ⟨hoptions, by simpa using hstorage, hsize, hregion⟩

theorem planOf_sound {κ : Type} {fleet : Fleet κ} {request : CreateVolumeRequest} {plan : Plan}
    (h : planOf fleet request = .ok plan) : plan.Sound := by
  obtain ⟨hoptions, hstorage, -, hregion⟩ := planOf_read h
  refine ⟨?_, hstorage, VolumeOptions.formatted_ofMap hoptions⟩
  exact Placement.region_gather_ne _ {} nofun plan.region hregion

/-! ## Handles -/

section

variable {plan : Plan} {name node zone : String}

theorem formats_plain : ∀ f ∈ VolumeHandle.formats, f.isEmpty = false ∧ '/' ∉ f.toList := by
  decide

/-- The handle of a volume can be read from its text exactly if none of the names holds a slash. -/
theorem wellFormed_handleOf_iff (hp : plan.Sound) : (handleOf plan name zone).WellFormed ↔
    '/' ∉ plan.region.toList ∧ '/' ∉ zone.toList ∧ '/' ∉ plan.options.storage.toList ∧ '/' ∉ name.toList := by
  have plain : '/' ∉ (plan.options.format.getD "").toList := by
    cases hf : plan.options.format with
    | none => simp
    | some f => exact (formats_plain f (hp.formatted f hf)).2
  have disk := VolumeHandle.isDisk_formattedDisk name plain
  constructor
  · intro h
    exact ⟨h.region, h.zone, h.storage, disk.mp h.isDisk⟩
  · rintro ⟨hr, hz, hs, hn⟩
    exact ⟨⟨hr, hz, hs⟩, hp.region_ne, hp.storage_ne, VolumeHandle.formattedDisk_ne name _, disk.mpr hn⟩

theorem volid_handleOf :
    (handleOf plan name zone).volid = plan.options.storage ++ ":" ++ (handleOf plan name zone).disk :=
  rfl

/-- The cluster gives a disk that has a format the name that the handle has. -/
theorem newVolid_diskFor_of_format (name zone : String) (hp : plan.Sound) {f : String}
    (hf : plan.options.format = some f) :
    Site.ClusterState.newVolid plan.options.storage (diskFor plan (handleOf plan name zone)) =
      (handleOf plan name zone).volid := by
  have hne := (formats_plain f (hp.formatted f hf)).1
  have disk : (handleOf plan name zone).disk.toList =
      ['9', '9', '9', '9'] ++ '/' :: ((DiskName.provisioned name).toList ++ '.' :: f.toList) := by
    simp only [handleOf, hf, VolumeHandle.withFormat, Option.getD_some]
    exact VolumeHandle.toList_formattedDisk name hne
  have file := VolumeHandle.toList_filename disk (by decide)
  have number : (toString (UInt32.ofNat DiskName.reservedVm).toNat).toList = ['9', '9', '9', '9'] := by
    decide +kernel
  refine String.toList_injective ?_
  simp only [volid_handleOf, Site.ClusterState.newVolid, diskFor, hf, String.toList_append, number, file, disk]
  simp

/-- The cluster gives a disk without a format the file name of the handle. -/
theorem newVolid_diskFor_of_none (name zone : String) (hf : plan.options.format = none) :
    Site.ClusterState.newVolid plan.options.storage (diskFor plan (handleOf plan name zone)) =
        plan.options.storage ++ ":" ++ (handleOf plan name zone).filename ∧
      (handleOf plan name zone).disk = DiskName.provisioned name := by
  constructor
  · simp only [Site.ClusterState.newVolid, diskFor, hf]
  · simp [handleOf, hf, VolumeHandle.withFormat, VolumeHandle.formattedDisk]

/-- The cluster gives the disk of a volume the name that the handle has, if the name of the volume holds no slash. -/
theorem newVolid_diskFor (hp : plan.Sound) (hn : '/' ∉ name.toList) :
    Site.ClusterState.newVolid plan.options.storage (diskFor plan (handleOf plan name zone)) =
      (handleOf plan name zone).volid := by
  cases hf : plan.options.format with
  | none =>
    obtain ⟨named, disk⟩ := newVolid_diskFor_of_none name zone hf
    have free : '/' ∉ (handleOf plan name zone).disk.toList := by
      rw [disk, VolumeHandle.toList_provisioned]
      simpa using hn
    rw [named, volid_handleOf, VolumeHandle.filename_eq_disk free]
  | some f => exact newVolid_diskFor_of_format name zone hp hf

end

end Provisioning

/-! ## Making a volume -/

/-- Does the call make a disk? -/
def Call.createsDisk : Call → Bool
  | .cluster _ (.createDisk ..) => true
  | _ => false

namespace Provisioning

/-- The call, if it makes a disk, makes that of a volume on a node. -/
def MakesOnly (plan : Plan) (node : String) (v : VolumeHandle) (call : Call) : Prop :=
  call.createsDisk = true → call = .cluster plan.region (.createDisk node plan.options.storage (diskFor plan v))

section

variable {plan : Plan} {name node : String} {v : VolumeHandle} {s : Site} {t : Site × History}

theorem ensureDisk_asks (plan : Plan) (node : String) (v : VolumeHandle) :
    (ensureDisk plan node v).Asks (MakesOnly plan node v) := by
  unfold ensureDisk
  refine (asks_cluster (fun h => by cases h)).rewording.bind fun content => ?_
  split
  · split
    · exact asks_throw
    · exact asks_pure
  · exact (asks_cluster fun _ => rfl).rewording.bind fun _ => asks_pure

/-- If the disk of a volume is ensured without a failure, the node lists it under the name of the handle. -/
theorem ensureDisk_lists
    (hv : Site.ClusterState.newVolid plan.options.storage (diskFor plan v) = v.volid) :
    Ensures Site.recorded (fun _ _ => True) (ensureDisk plan node v)
      (fun _ t => t.1.InRegion plan.region fun c => c.Lists node plan.options.storage v.volid) (fun _ _ => True) t := by
  unfold ensureDisk
  refine ensures_bind.mpr (ensures_rewording.mpr (ensures_cluster.mpr ⟨trivial, fun x t e => ?_⟩))
  cases x with
  | error f => trivial
  | ok content =>
    simp only [onOutcome]
    split
    · rename_i found hfound
      split
      · trivial
      · have named : found.volid = v.volid := by simpa using List.find?_some hfound
        exact Site.inRegion_storageContent (Site.recorded_eq.mp e).1 ⟨found, List.mem_of_find?_eq_some hfound, named⟩
    · refine ensures_bind.mpr (ensures_rewording.mpr (ensures_cluster.mpr ⟨trivial, fun y u e' => ?_⟩))
      cases y with
      | error f => trivial
      | ok volid => exact hv ▸ Site.inRegion_createDisk (Site.recorded_eq.mp e').1

/-- What is known of a volume that is handed out: its id is the text of its handle, only its disk was made, and unless
its name holds a slash the disk is listed under the name of the handle. -/
structure HandedOut (plan : Plan) (name node zone id : String) (t : Site × History) : Prop where
  placed : zone = "" ∨ zone = node
  text : id = (handleOf plan name zone).text
  made : ∀ e ∈ t.2, MakesOnly plan node (handleOf plan name zone) e.request
  listed : '/' ∉ name.toList → t.1.InRegion plan.region fun c =>
    c.Lists node plan.options.storage (handleOf plan name zone).volid

/-- The disk of a volume is ensured under the lock of its handle: no other disk is made. -/
theorem holding_makes (h : ∀ e ∈ t.2, MakesOnly plan node v e.request) :
    Ensures Site.recorded (fun _ _ => True) (Service.holding v.text (ensureDisk plan node v))
      (fun _ u => ∀ e ∈ u.2, MakesOnly plan node v e.request) (fun _ u => ∀ e ∈ u.2, MakesOnly plan node v e.request)
      t := by
  have held : (Service.holding v.text (ensureDisk plan node v)).Asks (MakesOnly plan node v) :=
    (ensureDisk_asks plan node v).holding (fun h => by cases h) fun h => by cases h
  refine held.ensures (K := fun u => ∀ e ∈ u.2, MakesOnly plan node v e.request) Site.remembers_recorded
    (fun _ _ _ _ => trivial) (fun u call x w hcall hu e => ?_) h
  rw [(Site.recorded_eq.mp e).2]
  exact List.forall_mem_cons.mpr ⟨hcall, hu⟩

/-- The disk of a volume is ensured under the lock of its handle, and the node lists it. -/
theorem holding_lists (hv : Site.ClusterState.newVolid plan.options.storage (diskFor plan v) = v.volid) :
    Ensures Site.recorded (fun _ _ => True) (Service.holding v.text (ensureDisk plan node v))
      (fun _ u => u.1.InRegion plan.region fun c => c.Lists node plan.options.storage v.volid) (fun _ _ => True) t := by
  refine Ensures.holding trivial fun _ u _ => (ensureDisk_lists hv).post (fun _ w hw => ⟨trivial, fun y z e => ?_⟩)
    fun _ _ _ => ⟨trivial, fun _ _ _ => trivial⟩
  exact inRegion_of_other hw (fun _ _ h => by cases h) (Site.recorded_eq.mp e).1

/-- A volume is made on a node and handed out. -/
theorem createOn_handsOut (hp : plan.Sound) (name node : String) (h : t.2.Without Call.createsDisk) :
    Ensures Site.recorded (fun _ _ => True) (createOn plan name node)
      (fun response t => ∃ zone, HandedOut plan name node zone response.volume.volumeId t) (fun _ _ => True) t := by
  unfold createOn
  refine ensures_bind.mpr (ensures_rewording.mpr (ensures_cluster.mpr ⟨trivial, fun x t e => ?_⟩))
  cases x with
  | error f => trivial
  | ok status =>
    refine ensures_bind.mpr (ensures_ofExcept.mpr ?_)
    cases hzone : zoneOf plan node status with
    | error f => trivial
    | ok zone =>
      have placed : zone = "" ∨ zone = node := by
        unfold zoneOf at hzone
        split at hzone
        · cases hzone
          exact .inl rfl
        · split at hzone
          · cases hzone
          · cases hzone
            exact .inr rfl
      have before : ∀ e ∈ t.2, MakesOnly plan node (handleOf plan name zone) e.request := by
        intro e' he'
        have unmade : t.2.Without Call.createsDisk := (Site.recorded_eq.mp e).2 ▸ History.without_cons rfl h
        exact fun hd => absurd hd (by simp [unmade e' he'])
      have listed : Ensures Site.recorded (fun _ _ => True)
          (Service.holding (handleOf plan name zone).text (ensureDisk plan node (handleOf plan name zone)))
          (fun _ u => '/' ∉ name.toList → u.1.InRegion plan.region fun c =>
            c.Lists node plan.options.storage (handleOf plan name zone).volid) (fun _ _ => True) t := by
        by_cases hn : '/' ∈ name.toList
        · exact ensures_trivial.post (fun _ _ _ h => absurd hn h) fun _ _ h => h
        · exact (holding_lists (newVolid_diskFor hp hn)).post (fun _ _ h _ => h) fun _ _ h => h
      refine ensures_bind.mpr (((holding_makes before).and listed).mono (fun _ _ _ => trivial) (fun _ u hu => ?_)
        fun _ _ _ => trivial)
      exact ⟨zone, placed, rfl, hu.1, hu.2⟩

/-- A volume that is made is handed out, on the node that was asked for if there is one. -/
theorem createVolume_handsOut {κ : Type} (fleet : Fleet κ) (request : CreateVolumeRequest) :
    Ensures Site.recorded (fun _ _ => True) (createVolume fleet request)
      (fun response t => ∃ plan node zone, planOf fleet request = .ok plan ∧
        (plan.placement.landsOn.isEmpty = false → node = plan.placement.landsOn) ∧
        HandedOut plan request.name node zone response.volume.volumeId t) (fun _ _ => True) (s, []) := by
  unfold createVolume
  refine ensures_bind.mpr (ensures_ofExcept.mpr ?_)
  cases hplan : planOf fleet request with
  | error f => trivial
  | ok plan =>
    have hp := planOf_sound hplan
    simp only [onOutcome]
    split
    · rename_i hempty
      unfold Fleet.firstOnlineNode
      refine ensures_bind.mpr (ensures_bind.mpr (ensures_cluster.mpr ⟨trivial, fun x t e => ?_⟩))
      cases x with
      | error f => trivial
      | ok members =>
        simp only [onOutcome]
        split
        · rename_i m _
          have unmade : t.2.Without Call.createsDisk :=
            (Site.recorded_eq.mp e).2 ▸ History.without_cons rfl History.without_nil
          refine (createOn_handsOut hp request.name m.name unmade).post ?_ fun _ _ h => h
          rintro response u ⟨zone, h⟩
          exact ⟨plan, m.name, zone, rfl, fun h => absurd hempty (by simp [h]), h⟩
        · trivial
    · refine (createOn_handsOut hp request.name _ History.without_nil).post ?_ fun _ _ h => h
      rintro response u ⟨zone, h⟩
      exact ⟨plan, _, zone, rfl, fun _ => rfl, h⟩

end

/-! ## Addresses -/

/-- An id addresses the disk of a volume: it is read as the handle of the volume, every disk that was made is the one
that the handle names, and a node at which the handle may be looked for lists it. -/
structure Addresses (v : VolumeHandle) (node id : String) (past : History) (t : Site) : Prop where
  placed : v.zone = "" ∨ v.zone = node
  read : VolumeHandle.parse id = .ok v
  made : ∀ region node' storage disk x, Exchange.cluster region (.createDisk node' storage disk) x ∈ past →
    region = v.region ∧ node' = node ∧ storage = v.storage ∧ Site.ClusterState.newVolid storage disk = v.volid
  listed : t.InRegion v.region fun c => c.Lists node v.storage v.volid

/-- What is handed out addresses its disk exactly if the names hold no slash. -/
theorem HandedOut.addresses_iff {plan : Plan} {name node zone id : String} {t : Site × History}
    (h : HandedOut plan name node zone id t) (hp : plan.Sound) :
    Addresses (handleOf plan name zone) node id t.2 t.1 ↔
      '/' ∉ plan.region.toList ∧ '/' ∉ zone.toList ∧ '/' ∉ plan.options.storage.toList ∧ '/' ∉ name.toList := by
  rw [← wellFormed_handleOf_iff hp]
  constructor
  · intro ha
    exact (VolumeHandle.parse_eq_ok_iff.mp ha.read).2
  · intro hw
    have hn : '/' ∉ name.toList := ((wellFormed_handleOf_iff hp).mp hw).2.2.2
    refine ⟨h.placed, VolumeHandle.parse_eq_ok_iff.mpr ⟨h.text.symm, hw⟩, ?_, h.listed hn⟩
    intro region node' storage disk x hx
    have made : Call.cluster region (.createDisk node' storage disk) =
        .cluster plan.region (.createDisk node plan.options.storage (diskFor plan (handleOf plan name zone))) :=
      h.made _ hx rfl
    cases made
    exact ⟨rfl, rfl, rfl, newVolid_diskFor hp hn⟩

/-- **Ids and their disks.** When a volume is made at a site, its id is the text of the handle with the region and the
storage of the plan, with the disk for the name, and with the node that was asked or no zone. It addresses the disk
exactly if none of these names holds a slash. -/
theorem createVolume_addresses_iff {κ : Type} (fleet : Fleet κ) (request : CreateVolumeRequest) (s t : Site)
    (response : CreateVolumeResponse) (h : Site.run (createVolume fleet request) s = (.ok response, t)) :
    ∃ plan node zone, planOf fleet request = .ok plan ∧
      (plan.placement.landsOn.isEmpty = false → node = plan.placement.landsOn) ∧ (zone = "" ∨ zone = node) ∧
      response.volume.volumeId = (handleOf plan request.name zone).text ∧
      (Addresses (handleOf plan request.name zone) node response.volume.volumeId
          (Site.exchanges (createVolume fleet request) s) t ↔
        '/' ∉ plan.region.toList ∧ '/' ∉ zone.toList ∧ '/' ∉ plan.options.storage.toList ∧
          '/' ∉ request.name.toList) := by
  have ended := Site.run_exchanges_ended (createVolume_handsOut (s := s) fleet request)
  rw [h] at ended
  obtain ⟨plan, node, zone, hplan, hnode, hout⟩ := ended
  exact ⟨plan, node, zone, hplan, hnode, hout.placed, hout.text, hout.addresses_iff (planOf_sound hplan)⟩

set_option maxRecDepth 4000 in
/-- The id of a volume on the second node of two addresses its disk. -/
theorem createVolume_addresses_uneven : ∃ response plan node zone,
    Site.run (createVolume Uneven.fleet Uneven.request) Uneven.site = (.ok response, Uneven.made) ∧
      planOf Uneven.fleet Uneven.request = .ok plan ∧
      Addresses (handleOf plan "pvc-1" zone) node response.volume.volumeId
        (Site.exchanges (createVolume Uneven.fleet Uneven.request) Uneven.site) Uneven.made := by
  obtain ⟨response, hok, -⟩ := Uneven.creates
  have hrun : Site.run (createVolume Uneven.fleet Uneven.request) Uneven.site = (.ok response, Uneven.made) :=
    Prod.ext hok rfl
  obtain ⟨plan, node, zone, hplan, hnode, hzone, -, haddresses⟩ :=
    createVolume_addresses_iff Uneven.fleet Uneven.request Uneven.site Uneven.made response hrun
  obtain ⟨planned, hplanned, hregion, hlands, hstorage⟩ := Uneven.planned
  obtain rfl : plan = planned := Except.ok.inj (hplan.symm.trans hplanned)
  obtain rfl : node = "z2" := by simpa [hlands] using hnode
  refine ⟨response, plan, "z2", zone, hrun, hplan, haddresses.mpr ⟨?_, ?_, ?_, by decide⟩⟩
  · rw [hregion]
    decide
  · rcases hzone with rfl | rfl <;> decide
  · rw [hstorage]
    decide

/-- A volume whose name holds a slash. -/
def Uneven.slashed : CreateVolumeRequest :=
  { Uneven.request with name := "a/b" }

set_option maxRecDepth 4000 in
/-- A volume is made and handed out under an id that cannot be read, and its disk has another name. -/
theorem createVolume_hands_out_unreadable :
    ((Site.run (createVolume Uneven.fleet Uneven.slashed) Uneven.site).1.toOption.map (·.volume.volumeId)) =
        some "r1//data/vm-9999-a/b" ∧
      (VolumeHandle.parse "r1//data/vm-9999-a/b").isOk = false ∧
      ((Site.run (createVolume Uneven.fleet Uneven.slashed) Uneven.site).2.clusters "r1").map
        (fun c => c.disks.map (·.volume.volid)) = some ["data:b"] := by
  refine ⟨?_, ?_, ?_⟩
  · decide +kernel
  · decide +kernel
  · decide +kernel

end Provisioning

end ClusterVolumes
