import ClusterVolumes.Proofs.Provisioning.Deletion
import ClusterVolumes.Proofs.Provisioning.Refusals

/-!
# The calls of a creation

A creation reads its plan, finds the node to ask (`Sited`), asks it for the state of the storage, and provides the disk
under the lock of the volume (`Provides`). `createVolume_takes` says that this is how it goes, whatever the clusters
answer. Every failure of a cluster ends it: that of a request for the members of the cluster as it is, and any other one
as a fault of the request.
-/

namespace ClusterVolumes

open Csi Service
open Hypervisor (StorageVolume StorageStatus ClusterMember)

namespace Provisioning

/-! ## The parts of a creation -/

section

variable (plan : Plan) (node : String) (v : VolumeHandle)

/-- The exchange in which the cluster of a plan is asked for its members. -/
abbrev polling (x : Except Failure (List ClusterMember)) : Program.Exchange collaborators :=
  Exchange.cluster plan.region .members x

/-- The exchange in which a node is asked for the disks on the storage of a plan. -/
abbrev looking (x : Except Failure (List StorageVolume)) : Program.Exchange collaborators :=
  Exchange.cluster plan.region (.storageContent node plan.options.storage) x

/-- The exchange in which a node is told to make the disk of a volume. -/
abbrev making (x : Except Failure String) : Program.Exchange collaborators :=
  Exchange.cluster plan.region (.createDisk node plan.options.storage (diskFor plan v)) x

/-- How the disk of a volume is provided: the node fails to list the disks, or one of its name is there and has the
size that is wanted or another one, or there is none and it is made or fails to be. -/
inductive Provides : Except Failure Unit → History → Prop
  | unlisted (f : Failure) : Provides (.error (asInvalid f)) [looking plan node (.error f)]
  | there {content : List StorageVolume} {d : StorageVolume} :
      content.find? (fun d => d.volid = v.volid) = some d → d.size = plan.size →
        Provides (.ok ()) [looking plan node (.ok content)]
  | other {content : List StorageVolume} {d : StorageVolume} (f : Failure) :
      content.find? (fun d => d.volid = v.volid) = some d → d.size ≠ plan.size →
        Provides (.error f) [looking plan node (.ok content)]
  | made {content : List StorageVolume} (volid : String) :
      content.find? (fun d => d.volid = v.volid) = none →
        Provides (.ok ()) [making plan node v (.ok volid), looking plan node (.ok content)]
  | unmade {content : List StorageVolume} (f : Failure) :
      content.find? (fun d => d.volid = v.volid) = none →
        Provides (.error (asInvalid f)) [making plan node v (.error f), looking plan node (.ok content)]

/-- How a volume is made on a node: the node does not tell of the storage, or the storage needs a zone that is not
known, or the disk is provided under the lock of the volume or fails to be. -/
inductive MakesOn (name : String) : Except Failure CreateVolumeResponse → History → Prop
  | untold (f : Failure) :
      MakesOn name (.error (asInvalid f)) [measuring plan.region node plan.options.storage (.error f)]
  | unzoned {status : StorageStatus} {f : Failure} :
      zoneOf plan node status = .error f →
        MakesOn name (.error f) [measuring plan.region node plan.options.storage (.ok status)]
  | provided {status : StorageStatus} {zone : String} {outcome : Except Failure Unit} {made : History} :
      zoneOf plan node status = .ok zone → Provides plan node (handleOf plan name zone) outcome made →
        MakesOn name (outcome.map fun _ => responseFor plan (handleOf plan name zone))
          (made.locked (handleOf plan name zone).text ++
            [measuring plan.region node plan.options.storage (.ok status)])

/-- How the node to ask is found: it is the one on which the disk lands, or the first one that is online. -/
inductive Sited : Except Failure String → History → Prop
  | named : plan.placement.landsOn.isEmpty = false → Sited (.ok plan.placement.landsOn) []
  | online {members : List ClusterMember} {m : ClusterMember} :
      plan.placement.landsOn.isEmpty = true → members.find? Fleet.isOnlineNode = some m →
        Sited (.ok m.name) [polling plan (.ok members)]
  | offline {members : List ClusterMember} (f : Failure) :
      plan.placement.landsOn.isEmpty = true → members.find? Fleet.isOnlineNode = none →
        Sited (.error f) [polling plan (.ok members)]
  | untold (f : Failure) : plan.placement.landsOn.isEmpty = true → Sited (.error f) [polling plan (.error f)]

end

/-- How a creation goes: its request gives no plan, or it finds no node to ask, or a volume is made on one. -/
inductive Creation {κ : Type} (fleet : Fleet κ) (request : CreateVolumeRequest) :
    Except Failure CreateVolumeResponse → History → Prop
  | refused {f : Failure} : planOf fleet request = .error f → Creation fleet request (.error f) []
  | unsited {plan : Plan} {f : Failure} {made : History} :
      planOf fleet request = .ok plan → Sited plan (.error f) made → Creation fleet request (.error f) made
  | sited {plan : Plan} {node : String} {outcome : Except Failure CreateVolumeResponse} {made more : History} :
      planOf fleet request = .ok plan → Sited plan (.ok node) made → MakesOn plan node request.name outcome more →
        Creation fleet request outcome (more ++ made)

section

variable {plan : Plan} {node : String} {v : VolumeHandle}

theorem ensureDisk_takes : (ensureDisk plan node v).Takes (Provides plan node v) := by
  unfold ensureDisk
  have listed : Takes ((cluster plan.region (.storageContent node plan.options.storage)).rewording asInvalid)
      fun o made => ∃ x, o = x.mapError asInvalid ∧ made = [looking plan node x] :=
    Takes.rewording (takes_cluster fun x => ⟨x, rfl, rfl⟩)
  refine listed.bind ?_ ?_
  · rintro content _ ⟨x, e, rfl⟩
    cases x with
    | error f => cases e
    | ok _ =>
      cases e
      split
      · rename_i d found
        split
        · rename_i differs
          exact takes_throw (.other _ found differs)
        · rename_i fits
          exact takes_pure (.there found (not_not.mp fits))
      · rename_i missing
        have made : Takes ((cluster plan.region (.createDisk node plan.options.storage (diskFor plan v))).rewording
            asInvalid) fun o made => ∃ x, o = x.mapError asInvalid ∧ made = [making plan node v x] :=
          Takes.rewording (takes_cluster fun x => ⟨x, rfl, rfl⟩)
        refine made.bind ?_ ?_
        · rintro _ _ ⟨x, e, rfl⟩
          cases x with
          | error f => cases e
          | ok volid => exact takes_pure (.made volid missing)
        · rintro _ _ ⟨x, e, rfl⟩
          cases x with
          | ok volid => cases e
          | error f =>
            cases e
            exact .unmade f missing
  · rintro f _ ⟨x, e, rfl⟩
    cases x with
    | ok _ => cases e
    | error f =>
      cases e
      exact .unlisted f

theorem createOn_takes (name : String) : (createOn plan name node).Takes (MakesOn plan node name) := by
  unfold createOn
  have told : Takes ((cluster plan.region (.storageStatus node plan.options.storage)).rewording asInvalid)
      fun o made => ∃ x, o = x.mapError asInvalid ∧ made = [measuring plan.region node plan.options.storage x] :=
    Takes.rewording (takes_cluster fun x => ⟨x, rfl, rfl⟩)
  refine told.bind ?_ ?_
  · rintro status _ ⟨x, e, rfl⟩
    cases x with
    | error f => cases e
    | ok _ =>
      cases e
      have chosen : (Service.ofExcept (zoneOf plan node status)).Takes fun o made =>
          o = zoneOf plan node status ∧ made = [] := takes_ofExcept ⟨rfl, rfl⟩
      refine chosen.bind ?_ ?_
      · rintro zone _ ⟨zoned, rfl⟩
        have provided :
            (Service.holding (handleOf plan name zone).text (ensureDisk plan node (handleOf plan name zone))).Takes
              fun o made => ∃ within, made = within.locked (handleOf plan name zone).text ∧
              Provides plan node (handleOf plan name zone) o within :=
          (ensureDisk_takes.mono fun o made h => ⟨made, rfl, h⟩).holding
        refine provided.bind ?_ ?_
        · rintro ⟨⟩ _ ⟨made, rfl, provides⟩
          refine takes_pure ?_
          rw [List.nil_append, List.append_nil]
          exact .provided zoned.symm provides
        · rintro f _ ⟨made, rfl, provides⟩
          rw [List.append_nil]
          exact .provided zoned.symm provides
      · rintro f _ ⟨unzoned, rfl⟩
        exact .unzoned unzoned.symm
  · rintro f _ ⟨x, e, rfl⟩
    cases x with
    | ok _ => cases e
    | error f =>
      cases e
      exact .untold f

/-- Where the node is open, the first one that is online is asked. -/
theorem firstOnlineNode_sites (anywhere : plan.placement.landsOn.isEmpty = true) :
    (Fleet.firstOnlineNode plan.region).Takes (Sited plan) := by
  unfold Fleet.firstOnlineNode
  have told : Takes (cluster plan.region .members) fun x made => made = [polling plan x] := takes_cluster fun x => rfl
  refine told.bind ?_ ?_
  · rintro members _ rfl
    split
    · rename_i m first
      exact takes_pure (.online anywhere first)
    · rename_i offline
      exact takes_throw (.offline _ anywhere offline)
  · rintro f _ rfl
    exact .untold f anywhere

/-- **The course of a creation**, whatever the clusters answer. -/
theorem createVolume_takes {κ : Type} (fleet : Fleet κ) (request : CreateVolumeRequest) :
    (createVolume fleet request).Takes (Creation fleet request) := by
  have read : (Service.ofExcept (planOf fleet request)).Takes fun o made => o = planOf fleet request ∧ made = [] :=
    takes_ofExcept ⟨rfl, rfl⟩
  refine read.bind ?_ fun f _ h => ?_
  · rintro plan _ ⟨planned, rfl⟩
    have makes {node : String} {made : History} (sited : Sited plan (.ok node) made) :
        Takes (createOn plan request.name node) fun o more => Creation fleet request o (more ++ made) :=
      (createOn_takes request.name).mono fun o more makes => .sited planned.symm sited makes
    simp only [List.append_nil]
    split
    · rename_i anywhere
      refine (firstOnlineNode_sites anywhere).bind (fun _ _ sited => makes sited) fun f made unsited => ?_
      exact .unsited planned.symm unsited
    · rename_i named
      exact (makes (.named (by simpa using named))).mono fun o more h => by rwa [List.append_nil] at h
  · obtain ⟨unplanned, rfl⟩ := h
    exact .refused unplanned.symm

end

end Provisioning

end ClusterVolumes
