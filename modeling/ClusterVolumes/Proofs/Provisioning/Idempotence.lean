import ClusterVolumes.Proofs.Site.Faultless
import ClusterVolumes.Proofs.Provisioning.Addressing
import Mathlib.Data.List.Nodup

/-!
# Making a volume twice

At a site without faults the making of a volume takes one of four courses, and `Course` tells them with the calls that
were made: it stops before it looks for the disk, it finds the disk with the size that is wanted or with another one,
or it makes the disk. `createVolume_course` says that there is no other.

So a volume is made by one call at most, and none where the disk is listed; and since the disk that was made is found
the next time, the same request has the same answer (`createVolume_idempotent`).
-/

namespace ClusterVolumes

open Csi
open Service
open Site (ClusterState)

/-! ## Looking for disks -/

/-- Does the call ask for the disks of a storage? -/
def Call.lists : Call → Bool
  | .cluster _ (.storageContent ..) => true
  | _ => false

namespace History

/-- The exchanges in which a storage was asked for its disks, the latest first. -/
def listings (past : History) : History :=
  past.filter fun e => Call.lists e.request

theorem listings_cons {e : Program.Exchange collaborators} {past : History} :
    listings (e :: past) = if Call.lists e.request then e :: listings past else listings past :=
  List.filter_cons

end History

namespace Site.ClusterState

variable {c : ClusterState} {node storage : String}

/-- A node that has a storage lists the disks that it sees there. -/
theorem answer_storageContent (he : (c.entry? node storage).isSome = true) (region : String) :
    (c.answer region (.storageContent node storage)).1 = .ok (c.disksOn node storage) := by
  simp only [answer]
  rw [if_pos he]

theorem answer_storageStatus {e : Site.StorageEntry} (he : c.entry? node storage = some e) (region : String) :
    (c.answer region (.storageStatus node storage)).1 = .ok e.status := by
  simp only [answer, he]

/-- Asking for the disks of a storage or for its status changes nothing. -/
theorem answer_storageContent_keeps (region : String) (c : ClusterState) :
    (c.answer region (.storageContent node storage)).2 = c := by
  simp only [answer]
  split <;> rfl

theorem answer_storageStatus_keeps (region : String) (c : ClusterState) :
    (c.answer region (.storageStatus node storage)).2 = c := by
  simp only [answer]
  split <;> rfl

/-- A disk that is added comes last of those that the node sees. -/
theorem disksOn_addDisk (volume : Hypervisor.StorageVolume) :
    (c.addDisk node storage volume).disksOn node storage = c.disksOn node storage ++ [volume] := by
  have seen : c.sees node storage ⟨c.diskHome node storage, storage, volume⟩ = true := sees_iff.mpr ⟨rfl, rfl⟩
  have same : (c.addDisk node storage volume).sees node storage = c.sees node storage := rfl
  unfold disksOn
  rw [same]
  simp [addDisk, List.filter_append, seen]

end Site.ClusterState

namespace Provisioning

/-! ## Courses -/

/-- A volume goes to the node that is asked for, or else to the first one that is online. -/
def GoesTo (c : ClusterState) (plan : Plan) (node : String) : Prop :=
  if plan.placement.landsOn.isEmpty then ∃ m, c.members.find? Fleet.isOnlineNode = some m ∧ m.name = node
    else node = plan.placement.landsOn

theorem GoesTo.unique {c : ClusterState} {plan : Plan} {node node' : String} (h : GoesTo c plan node)
    (h' : GoesTo c plan node') : node = node' := by
  unfold GoesTo at h h'
  split at h
  · rename_i unasked
    rw [if_pos unasked] at h'
    obtain ⟨m, hm, rfl⟩ := h
    obtain ⟨m', hm', rfl⟩ := h'
    exact congrArg _ (Option.some.inj (hm.symm.trans hm'))
  · rename_i asked
    rw [if_neg asked] at h'
    exact h.trans h'.symm

/-- The node to which a volume goes has the storage, and what the storage says of itself gives the zone of the volume.
-/
structure Chosen (c : ClusterState) (plan : Plan) (node zone : String) : Prop where
  goes : GoesTo c plan node
  tells : ∃ e, c.entry? node plan.options.storage = some e ∧ zoneOf plan node e.status = .ok zone

theorem Chosen.unique {c : ClusterState} {plan : Plan} {node zone node' zone' : String} (h : Chosen c plan node zone)
    (h' : Chosen c plan node' zone') : node = node' ∧ zone = zone' := by
  obtain rfl := h.goes.unique h'.goes
  obtain ⟨e, he, hz⟩ := h.tells
  obtain ⟨e', he', hz'⟩ := h'.tells
  obtain rfl : e = e' := Option.some.inj (he.symm.trans he')
  exact ⟨rfl, Except.ok.inj (hz.symm.trans hz')⟩

/-- The disk as the cluster lists it that is made for a volume. -/
def listedAs (plan : Plan) (v : VolumeHandle) : Hypervisor.StorageVolume :=
  ⟨v.volid, plan.size, plan.options.format.getD "", some (UInt32.ofNat DiskName.reservedVm)⟩

/-- The disk of a volume among those that a node lists. -/
def listed? (plan : Plan) (node : String) (v : VolumeHandle) (c : ClusterState) : Option Hypervisor.StorageVolume :=
  (c.disksOn node plan.options.storage).find? fun d => d.volid = v.volid

/-- With what outcome the disk of a volume is ensured, what becomes of the cluster, and which calls change it: the
disk is there, or it is there with another size, or it is made. -/
inductive Ensured (plan : Plan) (node : String) (v : VolumeHandle) (c : ClusterState) :
    Except Failure Unit → ClusterState → List Call → Prop
  | found {d : Hypervisor.StorageVolume} : listed? plan node v c = some d → d.size = plan.size →
      Ensured plan node v c (.ok ()) c []
  | other {d : Hypervisor.StorageVolume} (message : String) : listed? plan node v c = some d → d.size ≠ plan.size →
      Ensured plan node v c (.error (.conflict message)) c []
  | made : listed? plan node v c = none →
      Ensured plan node v c (.ok ()) (c.addDisk node plan.options.storage (listedAs plan v))
        [.cluster plan.region (.createDisk node plan.options.storage (diskFor plan v))]

/-- The exchange in which a node lists the disks of the storage where a volume goes. -/
def listing (plan : Plan) (node : String) (c : ClusterState) : Program.Exchange collaborators :=
  Exchange.cluster plan.region (.storageContent node plan.options.storage) (.ok (c.disksOn node plan.options.storage))

/-- The courses that the making of a volume may take: it stops with a failure before the disks are listed, or it goes on
to ensure the disk. -/
inductive Course {κ : Type} (fleet : Fleet κ) (request : CreateVolumeRequest) (s : Site) :
    Except Failure CreateVolumeResponse → Site → History → Prop
  | stopped {f : Failure} {t : Site} {past : History} :
      (∀ plan c node zone, planOf fleet request = .ok plan → s.clusters plan.region = some c →
        ¬Chosen c plan node zone) →
      t.clusters = s.clusters → past.changing = [] → past.listings = [] → Course fleet request s (.error f) t past
  | settled {plan : Plan} {c c' : ClusterState} {node zone : String} {o : Except Failure Unit} {calls : List Call}
      {t : Site} {past : History} :
      planOf fleet request = .ok plan → s.clusters plan.region = some c → Chosen c plan node zone →
      Ensured plan node (handleOf plan request.name zone) c o c' calls →
      t.clusters = s.clusters.put plan.region (some c') → past.changing = calls →
      past.listings = [listing plan node c] →
      Course fleet request s (o.map fun _ => responseFor plan (handleOf plan request.name zone)) t past

/-! ## Ensuring a disk -/

section

variable {plan : Plan} {name node zone : String} {v : VolumeHandle} {c : ClusterState} {s : Site} {t : Site × History}

/-- How a site with its history comes from another one when the disk of a volume is ensured. -/
structure Settles (plan : Plan) (node : String) (v : VolumeHandle) (c : ClusterState) (t : Site × History)
    (o : Except Failure Unit) (c' : ClusterState) (calls : List Call) (u : Site × History) : Prop where
  ensured : Ensured plan node v c o c' calls
  faults : u.1.faults = []
  clusters : u.1.clusters = t.1.clusters.put plan.region (some c')
  changing : u.2.changing = calls ++ t.2.changing
  listings : u.2.listings = listing plan node c :: t.2.listings

/-- At a site without faults the disk of a volume is found or made. -/
theorem ensureDisk_settles (hf : t.1.faults = []) (hc : t.1.clusters plan.region = some c)
    (he : (c.entry? node plan.options.storage).isSome = true)
    (hv : ClusterState.newVolid plan.options.storage (diskFor plan v) = v.volid) :
    Ensures Site.recorded (fun _ _ => True) (ensureDisk plan node v)
      (fun _ u => ∃ c' calls, Settles plan node v c t (.ok ()) c' calls u)
      (fun f u => ∃ c' calls, Settles plan node v c t (.error f) c' calls u) t := by
  unfold ensureDisk
  refine ensures_bind.mpr (ensures_rewording.mpr ?_)
  refine Site.ensures_cluster_faultless hf hc trivial fun u faults clusters _ past => ?_
  rw [ClusterState.answer_storageContent he] at past ⊢
  rw [ClusterState.answer_storageContent_keeps, Keyed.put_of_eq hc] at clusters
  have region : u.1.clusters plan.region = some c := by rw [clusters]; exact hc
  have same : u.1.clusters = t.1.clusters.put plan.region (some c) := by
    rw [clusters, Keyed.put_of_eq hc]
  have changing : u.2.changing = t.2.changing := by rw [past, History.changing_cons]; rfl
  have listings : u.2.listings = listing plan node c :: t.2.listings := by rw [past, History.listings_cons]; rfl
  simp only [onOutcome]
  split
  · rename_i d found
    split
    · rename_i other
      exact ⟨c, [], .other _ found other, faults, same, changing, listings⟩
    · rename_i size
      exact ⟨c, [], .found found (Decidable.not_not.mp size), faults, same, changing, listings⟩
  · rename_i unlisted
    refine ensures_bind.mpr (ensures_rewording.mpr ?_)
    refine Site.ensures_cluster_faultless faults region trivial fun w faults made _ last => ?_
    refine ⟨_, _, .made unlisted, faults, ?_, ?_, ?_⟩
    · rw [made, clusters]
      simp only [ClusterState.answer, hv]
      rfl
    · rw [last, History.changing_cons, changing]
      rfl
    · rw [last, History.listings_cons, listings]
      rfl

/-- So it is under the lock of the volume. -/
theorem holding_settles (hf : t.1.faults = []) (hc : t.1.clusters plan.region = some c)
    (he : (c.entry? node plan.options.storage).isSome = true)
    (hv : ClusterState.newVolid plan.options.storage (diskFor plan v) = v.volid) :
    Ensures Site.recorded (fun _ _ => True) (Service.holding v.text (ensureDisk plan node v))
      (fun _ u => ∃ c' calls, Settles plan node v c t (.ok ()) c' calls u)
      (fun f u => ∃ c' calls, Settles plan node v c t (.error f) c' calls u) t := by
  -- neither taking the lock nor giving it back is among the calls that are told
  have locked {o : Except Failure Unit} {c' : ClusterState} {calls : List Call} {u w z : Site × History}
      (taken : Site.Unchanged t.1 u.1) (acquired : u.2 = ⟨.acquire v.text, ()⟩ :: t.2)
      (h : Settles plan node v c u o c' calls w) (given : Site.Unchanged w.1 z.1)
      (released : z.2 = ⟨.release v.text, ()⟩ :: w.2) : Settles plan node v c t o c' calls z := by
    refine ⟨h.ensured, given.faults, ?_, ?_, ?_⟩
    · rw [given.clusters, h.clusters, taken.clusters]
    · rw [released, History.changing_cons]
      refine h.changing.trans ?_
      rw [acquired, History.changing_cons]
      rfl
    · rw [released, History.listings_cons]
      refine h.listings.trans ?_
      rw [acquired, History.listings_cons]
      rfl
  refine Site.ensures_holding_faultless hf (fun _ => ⟨trivial, trivial⟩) fun u taken acquired => ?_
  have region : u.1.clusters plan.region = some c := by rw [taken.clusters]; exact hc
  refine (ensureDisk_settles taken.faults region he hv).post ?_ ?_
  · rintro _ w ⟨c', calls, h⟩
    exact ⟨h.faults, fun z given released => ⟨c', calls, locked taken acquired h given released⟩⟩
  · rintro f w ⟨c', calls, h⟩
    exact ⟨h.faults, fun z given released => ⟨c', calls, locked taken acquired h given released⟩⟩

/-! ## The course of a request -/

/-- The making of a volume on a node takes a course. -/
theorem createOn_course {κ : Type} {fleet : Fleet κ} {request : CreateVolumeRequest}
    (hplan : planOf fleet request = .ok plan) (hname : '/' ∉ request.name.toList) (hf : t.1.faults = [])
    (same : t.1.clusters = s.clusters) (changing : t.2.changing = []) (listings : t.2.listings = [])
    (hnode : ∀ c, s.clusters plan.region = some c → GoesTo c plan node) :
    Ensures Site.recorded (fun _ _ => True) (createOn plan request.name node)
      (fun r u => Course fleet request s (.ok r) u.1 u.2 ∧ u.1.faults = [])
      (fun f u => Course fleet request s (.error f) u.1 u.2 ∧ u.1.faults = []) t := by
  -- a choice would be of this node, since there is only one to choose
  have choice {plan' : Plan} {c : ClusterState} {node' zone : String} (hplan' : planOf fleet request = .ok plan')
      (hc : s.clusters plan'.region = some c) (h : Chosen c plan' node' zone) :
      plan' = plan ∧ ∃ e, c.entry? node plan.options.storage = some e ∧ zoneOf plan node e.status = .ok zone := by
    obtain rfl : plan = plan' := Except.ok.inj (hplan.symm.trans hplan')
    obtain rfl := h.goes.unique (hnode c hc)
    exact ⟨rfl, h.tells⟩
  have stopped {f : Failure} {u : Site × History} (unchanged : Site.Unchanged t.1 u.1)
      (past : ∃ x, u.2 = Exchange.cluster plan.region (.storageStatus node plan.options.storage) x :: t.2)
      (never : ∀ c e zone, s.clusters plan.region = some c → c.entry? node plan.options.storage = some e →
        zoneOf plan node e.status ≠ .ok zone) :
      Course fleet request s (.error f) u.1 u.2 ∧ u.1.faults = [] := by
    obtain ⟨x, past⟩ := past
    refine ⟨.stopped (fun plan' c node' zone hplan' hc chosen => ?_) (unchanged.clusters.trans same) ?_ ?_,
      unchanged.faults⟩
    · obtain ⟨rfl, e, he, hz⟩ := choice hplan' hc chosen
      exact never c e zone hc he hz
    · rw [past, History.changing_cons]
      exact changing
    · rw [past, History.listings_cons]
      exact listings
  unfold createOn
  refine ensures_bind.mpr (ensures_rewording.mpr ?_)
  refine Site.ensures_look hf (ClusterState.answer_storageStatus_keeps _) trivial (fun c hc u unchanged past => ?_)
    fun absent u unchanged past => ?_
  · rw [same] at hc
    cases he : c.entry? node plan.options.storage with
    | none =>
      have refused : (c.answer plan.region (.storageStatus node plan.options.storage)).1 =
          .error (ClusterState.unknownStorage plan.region plan.options.storage) := by
        simp only [ClusterState.answer, he]
      rw [refused] at past ⊢
      refine stopped unchanged ⟨_, past⟩ fun c' e zone hc' he' => ?_
      obtain rfl : c = c' := Option.some.inj (hc.symm.trans hc')
      rw [he] at he'
      cases he'
    | some e =>
      rw [ClusterState.answer_storageStatus he] at past ⊢
      refine ensures_bind.mpr (ensures_ofExcept.mpr ?_)
      cases hzone : zoneOf plan node e.status with
      | error f =>
        refine stopped unchanged ⟨_, past⟩ fun c' e' zone hc' he' hz => ?_
        obtain rfl : c = c' := Option.some.inj (hc.symm.trans hc')
        obtain rfl : e = e' := Option.some.inj (he.symm.trans he')
        rw [hzone] at hz
        cases hz
      | ok zone =>
        have chosen : Chosen c plan node zone := ⟨hnode c hc, e, he, hzone⟩
        have region : u.1.clusters plan.region = some c := by rw [unchanged.clusters, same]; exact hc
        have quiet : u.2.changing = [] := by rw [past, History.changing_cons]; exact changing
        have unlisted : u.2.listings = [] := by rw [past, History.listings_cons]; exact listings
        have settled {o : Except Failure Unit} {c' : ClusterState} {calls : List Call} {w : Site × History}
            (h : Settles plan node (handleOf plan request.name zone) c u o c' calls w) :
            Course fleet request s (o.map fun _ => responseFor plan (handleOf plan request.name zone)) w.1 w.2 := by
          refine .settled hplan hc chosen h.ensured ?_ ?_ ?_
          · rw [h.clusters, unchanged.clusters, same]
          · rw [h.changing, quiet, List.append_nil]
          · rw [h.listings, unlisted]
        have has : (c.entry? node plan.options.storage).isSome = true := by rw [he]; rfl
        have volid : ClusterState.newVolid plan.options.storage (diskFor plan (handleOf plan request.name zone)) =
            (handleOf plan request.name zone).volid := newVolid_diskFor (planOf_sound hplan) hname
        refine ensures_bind.mpr ((holding_settles unchanged.faults region has volid).post ?_ ?_)
        · rintro _ w ⟨c', calls, h⟩
          exact ⟨settled h, h.faults⟩
        · rintro f w ⟨c', calls, h⟩
          exact ⟨settled h, h.faults⟩
  · rw [same] at absent
    refine stopped unchanged ⟨_, past⟩ fun c e zone hc => ?_
    rw [absent] at hc
    cases hc

/-- At a site without faults the making of a volume takes a course, and no fault comes up. -/
theorem createVolume_course {κ : Type} (fleet : Fleet κ) {request : CreateVolumeRequest}
    (hname : '/' ∉ request.name.toList) (hf : s.faults = []) :
    Ensures Site.recorded (fun _ _ => True) (createVolume fleet request)
      (fun r u => Course fleet request s (.ok r) u.1 u.2 ∧ u.1.faults = [])
      (fun f u => Course fleet request s (.error f) u.1 u.2 ∧ u.1.faults = []) (s, []) := by
  unfold createVolume
  refine ensures_bind.mpr (ensures_ofExcept.mpr ?_)
  cases hplan : planOf fleet request with
  | error f =>
    refine ⟨.stopped (fun plan _ _ _ read => ?_) rfl rfl rfl, hf⟩
    rw [hplan] at read
    cases read
  | ok plan =>
    simp only [onOutcome]
    split
    · rename_i unasked
      unfold Fleet.firstOnlineNode
      refine ensures_bind.mpr (ensures_bind.mpr ?_)
      refine Site.ensures_look hf (fun _ => rfl) trivial (fun c hc u unchanged past => ?_)
        fun absent u unchanged past => ?_
      · have changing : u.2.changing = [] := by rw [past, History.changing_cons]; rfl
        have listings : u.2.listings = [] := by rw [past, History.listings_cons]; rfl
        simp only [ClusterState.answer, onOutcome]
        split
        · rename_i m online
          have goes : ∀ c', s.clusters plan.region = some c' → GoesTo c' plan m.name := by
            intro c' hc'
            obtain rfl : c = c' := Option.some.inj (hc.symm.trans hc')
            unfold GoesTo
            rw [if_pos unasked]
            exact ⟨m, online, rfl⟩
          exact createOn_course hplan hname unchanged.faults unchanged.clusters changing listings goes
        · rename_i offline
          refine ⟨.stopped (fun plan' c' node zone hplan' hc' chosen => ?_) unchanged.clusters changing listings,
            unchanged.faults⟩
          obtain rfl : plan = plan' := Except.ok.inj (hplan.symm.trans hplan')
          obtain rfl : c = c' := Option.some.inj (hc.symm.trans hc')
          have goes := chosen.goes
          unfold GoesTo at goes
          rw [if_pos unasked] at goes
          obtain ⟨m, online, -⟩ := goes
          rw [offline] at online
          cases online
      · refine ⟨.stopped (fun plan' c node zone hplan' hc chosen => ?_) unchanged.clusters ?_ ?_, unchanged.faults⟩
        · obtain rfl : plan = plan' := Except.ok.inj (hplan.symm.trans hplan')
          rw [absent] at hc
          cases hc
        · rw [past, History.changing_cons]
          rfl
        · rw [past, History.listings_cons]
          rfl
    · rename_i asked
      refine createOn_course hplan hname hf rfl rfl rfl fun c hc => ?_
      unfold GoesTo
      rw [if_neg asked]

/-- So does its run. -/
theorem run_course {κ : Type} (fleet : Fleet κ) {request : CreateVolumeRequest} (hname : '/' ∉ request.name.toList)
    (hf : s.faults = []) :
    Course fleet request s (Site.run (createVolume fleet request) s).1 (Site.run (createVolume fleet request) s).2
        (Site.exchanges (createVolume fleet request) s) ∧
      (Site.run (createVolume fleet request) s).2.faults = [] := by
  have ended := Site.run_exchanges_ended (createVolume_course fleet hname hf)
  cases outcome : (Site.run (createVolume fleet request) s).1 with
  | ok r =>
    rw [outcome] at ended
    exact ended
  | error f =>
    rw [outcome] at ended
    exact ended

end

/-! ## What a request does -/

/-- What the making of a volume changes: nothing, or the region of the plan gets the disk of the volume, by one call,
because the node that was chosen does not list it. -/
inductive Effect {κ : Type} (fleet : Fleet κ) (request : CreateVolumeRequest) (s t : Site) (past : History) : Prop
  | unchanged : t.clusters = s.clusters → past.changing = [] → Effect fleet request s t past
  | added {plan : Plan} {c : ClusterState} {node zone : String} : planOf fleet request = .ok plan →
      s.clusters plan.region = some c → Chosen c plan node zone →
      (∀ d ∈ c.disksOn node plan.options.storage, d.volid ≠ (handleOf plan request.name zone).volid) →
      t.clusters = s.clusters.put plan.region (some
        (c.addDisk node plan.options.storage (listedAs plan (handleOf plan request.name zone)))) →
      past.changing = [.cluster plan.region (.createDisk node plan.options.storage
        (diskFor plan (handleOf plan request.name zone)))] →
      listing plan node c ∈ past → Effect fleet request s t past

/-- A volume was made: it has the size that the request asks for, and the chosen node lists its disk with that size. -/
def Made {κ : Type} (fleet : Fleet κ) (request : CreateVolumeRequest) (r : CreateVolumeResponse) (t : Site) : Prop :=
  requestedSize request.capacityRange = .ok r.volume.capacityBytes ∧
    ∃ plan node zone, planOf fleet request = .ok plan ∧ r.volume.volumeId = (handleOf plan request.name zone).text ∧
      t.InRegion plan.region fun c => Chosen c plan node zone ∧
        ∃ content, (c.answer plan.region (.storageContent node plan.options.storage)).1 = .ok content ∧
          ∃ d ∈ content, d.volid = (handleOf plan request.name zone).volid ∧ d.size = r.volume.capacityBytes

section

variable {plan : Plan} {node zone : String} {v : VolumeHandle} {c c' : ClusterState} {s t : Site}
  {o : Except Failure Unit} {calls : List Call} {κ : Type} {fleet : Fleet κ} {request : CreateVolumeRequest}
  {past : History}

theorem listed?_eq_none (h : listed? plan node v c = none) :
    ∀ d ∈ c.disksOn node plan.options.storage, d.volid ≠ v.volid := by
  intro d hd
  simpa using List.find?_eq_none.mp h d hd

/-- An ensured disk keeps what was chosen. -/
theorem Ensured.chosen (h : Ensured plan node v c o c' calls) {node' zone : String} :
    Chosen c' plan node' zone ↔ Chosen c plan node' zone := by
  cases h with
  | found => exact Iff.rfl
  | other => exact Iff.rfl
  | made =>
    -- neither the members nor the storages know of disks
    have goes : GoesTo (c.addDisk node plan.options.storage (listedAs plan v)) plan node' ↔ GoesTo c plan node' :=
      Iff.rfl
    exact ⟨fun ⟨g, t⟩ => ⟨goes.mp g, t⟩, fun ⟨g, t⟩ => ⟨goes.mpr g, t⟩⟩

/-- A disk that is ensured is found with the size that is wanted. -/
theorem Ensured.listed (h : Ensured plan node v c (.ok ()) c' calls) :
    ∃ d, listed? plan node v c' = some d ∧ d.size = plan.size := by
  cases h with
  | found found size => exact ⟨_, found, size⟩
  | made unlisted =>
    refine ⟨listedAs plan v, ?_, rfl⟩
    unfold listed? at unlisted ⊢
    rw [ClusterState.disksOn_addDisk, List.find?_append, unlisted]
    simp [listedAs]

/-- A failure changes no disk. -/
theorem Ensured.unchanged {f : Failure} (h : Ensured plan node v c (.error f) c' calls) : c' = c ∧ calls = [] := by
  cases h with
  | other => exact ⟨rfl, rfl⟩

theorem Course.effect {o : Except Failure CreateVolumeResponse} (h : Course fleet request s o t past) :
    Effect fleet request s t past := by
  cases h with
  | stopped _ clusters changing => exact .unchanged clusters changing
  | settled hplan hc chosen ensured clusters changing listings =>
    cases ensured with
    | found => exact .unchanged (by rw [clusters, Keyed.put_of_eq hc]) changing
    | other => exact .unchanged (by rw [clusters, Keyed.put_of_eq hc]) changing
    | made unlisted =>
      have listed : listing _ _ _ ∈ past.listings := listings ▸ List.mem_singleton_self _
      exact .added hplan hc chosen (listed?_eq_none unlisted) clusters changing (List.mem_filter.mp listed).1

theorem Course.failed {f : Failure} (h : Course fleet request s (.error f) t past) : t.clusters = s.clusters := by
  generalize eq : (Except.error f : Except Failure CreateVolumeResponse) = outcome at h
  cases h with
  | stopped _ clusters => exact clusters
  | @settled _ c _ _ _ o _ _ _ _ hc _ ensured clusters =>
    cases o with
    | ok _ => cases eq
    | error f' => rw [clusters, ensured.unchanged.1, Keyed.put_of_eq hc]

/-- After a volume was made its disk is there, and the answer tells of it. -/
theorem Course.there {r : CreateVolumeResponse} (h : Course fleet request s (.ok r) t past) :
    ∃ plan c node zone d, planOf fleet request = .ok plan ∧ t.clusters plan.region = some c ∧ Chosen c plan node zone ∧
      listed? plan node (handleOf plan request.name zone) c = some d ∧ d.size = plan.size ∧
      r = responseFor plan (handleOf plan request.name zone) := by
  generalize eq : (Except.ok r : Except Failure CreateVolumeResponse) = outcome at h
  cases h with
  | stopped => cases eq
  | @settled plan c c' node zone o _ _ _ hplan _ chosen ensured clusters =>
    cases o with
    | error f => cases eq
    | ok _ =>
      cases eq
      obtain ⟨d, found, size⟩ := ensured.listed
      refine ⟨plan, c', node, zone, d, hplan, ?_, ensured.chosen.mpr chosen, found, size, rfl⟩
      exact clusters ▸ Keyed.put_self _ _ _

theorem Course.made {r : CreateVolumeResponse} (h : Course fleet request s (.ok r) t past) :
    Made fleet request r t := by
  obtain ⟨plan, c, node, zone, d, hplan, hc, chosen, found, size, rfl⟩ := h.there
  obtain ⟨e, he, -⟩ := chosen.tells
  have has : (c.entry? node plan.options.storage).isSome = true := by rw [he]; rfl
  have named : d.volid = (handleOf plan request.name zone).volid := by simpa using List.find?_some found
  exact ⟨(planOf_read hplan).2.2.1, plan, node, zone, hplan, rfl, c, hc, chosen, _,
    ClusterState.answer_storageContent has _, d, List.mem_of_find?_eq_some found, named, size⟩

/-- Where the disk of a volume is, the same request finds it and has the same answer. -/
theorem Course.again {r : CreateVolumeResponse} (h : Course fleet request s (.ok r) t past)
    {o : Except Failure CreateVolumeResponse} {t' : Site} {past' : History} (h' : Course fleet request t o t' past') :
    o = .ok r ∧ t'.clusters = t.clusters ∧ past'.changing = [] := by
  obtain ⟨plan, c, node, zone, d, hplan, hc, chosen, found, size, rfl⟩ := h.there
  cases h' with
  | stopped never => exact absurd chosen (never plan c node zone hplan hc)
  | @settled plan' c₁ _ node' zone' _ _ _ _ hplan' hc' chosen' ensured clusters changing =>
    obtain rfl : plan = plan' := Except.ok.inj (hplan.symm.trans hplan')
    obtain rfl : c = c₁ := Option.some.inj (hc.symm.trans hc')
    obtain ⟨rfl, rfl⟩ := chosen.unique chosen'
    cases ensured with
    | found => exact ⟨rfl, by rw [clusters, Keyed.put_of_eq hc], changing⟩
    | other _ found' differs =>
      obtain rfl := Option.some.inj (found.symm.trans found')
      exact absurd size differs
    | made unlisted =>
      rw [unlisted] at found
      cases found

/-- If the disks that were listed hold one of the name with another size, the request is refused. -/
theorem Course.conflict {o : Except Failure CreateVolumeResponse} (h : Course fleet request s o t past)
    {region storage : String} {content : List Hypervisor.StorageVolume}
    (mem : Exchange.cluster region (.storageContent node storage) (.ok content) ∈ past)
    (nodup : (content.map (·.volid)).Nodup) (hplan : planOf fleet request = .ok plan)
    {d : Hypervisor.StorageVolume} (hd : d ∈ content) (volid : d.volid = (handleOf plan request.name zone).volid)
    (differs : d.size ≠ plan.size) : ∃ message, o = .error (.conflict message) := by
  have listed : Exchange.cluster region (.storageContent node storage) (.ok content) ∈ past.listings :=
    List.mem_filter.mpr ⟨mem, rfl⟩
  cases h with
  | stopped _ _ _ unlisted =>
    rw [unlisted] at listed
    cases listed
  | @settled plan' c _ node' zone' _ _ _ _ hplan' _ _ ensured _ _ listings =>
    obtain rfl : plan = plan' := Except.ok.inj (hplan.symm.trans hplan')
    rw [listings] at listed
    cases List.mem_singleton.mp listed
    cases ensured with
    | @found d' found size =>
      have named : d'.volid = (handleOf plan request.name zone').volid := by simpa using List.find?_some found
      have same : d = d' :=
        List.inj_on_of_nodup_map nodup hd (List.mem_of_find?_eq_some found) (volid.trans named.symm)
      exact absurd (same ▸ size) differs
    | other message => exact ⟨message, rfl⟩
    | made unlisted => exact absurd volid (listed?_eq_none unlisted d hd)

/-- **Making a volume twice.** At a site without faults, a request for a volume whose name holds no slash changes
nothing or makes the one disk of the volume, where the chosen node does not list it. If it is answered, the disk is
listed with the size that is asked for and answered, and the same request has the same answer again and changes
nothing. If it fails, no cluster has changed. If the disks that were listed hold one of the name with another size, it
fails with a conflict. -/
theorem createVolume_idempotent {κ : Type} (fleet : Fleet κ) (request : CreateVolumeRequest) (s : Site)
    (hname : '/' ∉ request.name.toList) (hf : s.faults = []) :
    Effect fleet request s (Site.run (createVolume fleet request) s).2
        (Site.exchanges (createVolume fleet request) s) ∧
      (∀ r t, Site.run (createVolume fleet request) s = (.ok r, t) → Made fleet request r t ∧
        ∃ t', Site.run (createVolume fleet request) t = (.ok r, t') ∧ t'.clusters = t.clusters ∧
          (Site.exchanges (createVolume fleet request) t).changing = []) ∧
      (∀ f t, Site.run (createVolume fleet request) s = (.error f, t) → t.clusters = s.clusters) ∧
      ∀ plan region node storage zone content d, planOf fleet request = .ok plan →
        Exchange.cluster region (.storageContent node storage) (.ok content) ∈
          Site.exchanges (createVolume fleet request) s →
        (content.map (·.volid)).Nodup → d ∈ content → d.volid = (handleOf plan request.name zone).volid →
        d.size ≠ plan.size → ∃ message, (Site.run (createVolume fleet request) s).1 = .error (.conflict message) := by
  obtain ⟨course, faults⟩ := run_course fleet hname hf
  refine ⟨course.effect, fun r t hrun => ?_, fun f t hrun => ?_, fun plan region node storage zone content d hplan mem
    nodup hd volid differs => course.conflict mem nodup hplan hd volid differs⟩
  · rw [hrun] at course faults
    obtain ⟨second, -⟩ := run_course fleet hname faults
    obtain ⟨answer, clusters, changing⟩ := course.again second
    exact ⟨course.made, _, Prod.ext answer rfl, clusters, changing⟩
  · rw [hrun] at course
    exact course.failed

/-- The volume of the second node with twice the size. -/
def Uneven.larger : CreateVolumeRequest :=
  { Uneven.request with capacityRange := some { requiredBytes := 21474836480 } }

/-- The disk of that volume. -/
def Uneven.disk : Hypervisor.StorageVolume :=
  ⟨"data:vm-9999-pvc-1", 10737418240, "", some 9999⟩

set_option maxRecDepth 8000 in
/-- When the volume is there, the second node lists its disk to a request for a larger one. -/
theorem Uneven.lists_disk : Exchange.cluster "r1" (.storageContent "z2" "data") (.ok [Uneven.disk]) ∈
    Site.exchanges (createVolume Uneven.fleet Uneven.larger) Uneven.made := by
  have listed : (Site.exchanges (createVolume Uneven.fleet Uneven.larger) Uneven.made)[1]? =
      some (Exchange.cluster "r1" (.storageContent "z2" "data") (.ok [Uneven.disk])) := by rfl
  exact List.mem_of_getElem? listed

set_option maxRecDepth 8000 in
/-- A volume is made, made again without a change, and not made with another size. -/
theorem createVolume_idempotent_uneven : ∃ r t',
    Site.run (createVolume Uneven.fleet Uneven.request) Uneven.site = (.ok r, Uneven.made) ∧
      Made Uneven.fleet Uneven.request r Uneven.made ∧
      Site.run (createVolume Uneven.fleet Uneven.request) Uneven.made = (.ok r, t') ∧
      t'.clusters = Uneven.made.clusters ∧
      (Site.exchanges (createVolume Uneven.fleet Uneven.request) Uneven.made).changing = [] ∧
      ∃ message, (Site.run (createVolume Uneven.fleet Uneven.larger) Uneven.made).1 = .error (.conflict message) := by
  obtain ⟨r, hok, -⟩ := Uneven.creates
  have hrun : Site.run (createVolume Uneven.fleet Uneven.request) Uneven.site = (.ok r, Uneven.made) := Prod.ext hok rfl
  have faults : Uneven.made.faults = [] := Site.faults_eq_nil_iff.mpr Uneven.faultless
  obtain ⟨-, answered, -, -⟩ := createVolume_idempotent Uneven.fleet Uneven.request Uneven.site (by decide) rfl
  obtain ⟨made, t', again, clusters, changing⟩ := answered r Uneven.made hrun
  obtain ⟨-, -, -, conflict⟩ := createVolume_idempotent Uneven.fleet Uneven.larger Uneven.made (by decide) faults
  have planned : ∃ plan, planOf Uneven.fleet Uneven.larger = .ok plan ∧
      Uneven.disk.volid = (handleOf plan "pvc-1" "").volid ∧ Uneven.disk.size ≠ plan.size := by
    have read : (planOf Uneven.fleet Uneven.larger).toOption.map
        (fun plan => ((handleOf plan "pvc-1" "").volid, plan.size)) = some ("data:vm-9999-pvc-1", 21474836480) := by
      decide +kernel
    cases h : planOf Uneven.fleet Uneven.larger with
    | error f => rw [h] at read; cases read
    | ok plan =>
      rw [h] at read
      simp only [Except.toOption, Option.map_some, Option.some.injEq, Prod.mk.injEq] at read
      exact ⟨plan, rfl, read.1.symm, by rw [read.2]; decide⟩
  obtain ⟨plan, hplan, volid, differs⟩ := planned
  exact ⟨r, t', hrun, made, again, clusters, changing, conflict plan "r1" "z2" "data" "" [Uneven.disk] Uneven.disk hplan
    Uneven.lists_disk (by decide) (List.mem_singleton_self _) volid differs⟩

end

end Provisioning

end ClusterVolumes
