import ClusterVolumes.NodeVolume.Stage
import ClusterVolumes.Proofs.Footprint
import ClusterVolumes.Proofs.Provisioning.Addressing
import ClusterVolumes.Proofs.Volume.OptionsMap

/-!
# Contexts of volumes

What is told of a volume that is made follows from the plan of the request and the handle of the volume
(`createVolume_responds`). Its context holds the options of the plan as they are written and the device path, and a
volume is staged under the options that its context gives (`stage_asks`). So a node works with the options that were
read when the volume was made: `options_carried`.
-/

namespace ClusterVolumes

open Csi Service

/-! ## Staging -/

namespace Device

variable {kind : Call → Prop} {finder : Finder}

theorem awaitPath_asks (hf : kind .files) (hs : kind (.sleep finder.pause)) (hd : kind (.deadline finder.timeout))
    (path : String) : (awaitPath finder path).Asks kind := by
  unfold awaitPath
  have look : (isThere path).Asks kind := (asks_files hf).bind fun _ => asks_pure
  exact (look.pollUntil hs hd).bind fun _ => asks_pure

/-- To find a device is to look at the files and to wait. -/
theorem resolve_asks (hf : kind .files) (hs : kind (.sleep finder.pause)) (hd : kind (.deadline finder.timeout))
    (path : String) : (resolve finder path).Asks kind := by
  unfold resolve
  split
  · refine (asks_files hf).bind fun root => asks_ofExcept.bind fun found => ?_
    split
    · exact asks_pure
    · exact awaitPath_asks hf hs hd path
  · exact awaitPath_asks hf hs hd path

end Device

namespace NodeVolume

/-- The call, if it makes a file system and mounts it, does so as a capability and the options of a volume say. -/
def MountsWith (capability : Option VolumeCapability) (o : VolumeOptions) (call : Call) : Prop :=
  ∀ device staging fsType flags arguments, call = .mounts (.formatAndMount device staging fsType flags arguments) →
    ∃ c, capability = some c ∧ fsType = fsTypeOf c ∧ flags = stageOptions c o ∧ arguments = o.mkfsArguments fsType

/-- To make a folder that is needed is to ask for it. -/
theorem ensureFolder_asks {kind : Call → Prop} {folder : String} (h : kind (.makeFolders folder)) :
    (ensureFolder folder).Asks kind := by
  unfold ensureFolder
  refine (asks_makeFolders h).bind fun made => ?_
  cases made
  · exact asks_throw
  · exact asks_pure

theorem stagePlanOf_capability {request : NodeStageVolumeRequest} {plan : StagePlan}
    (h : stagePlanOf request = .ok plan) :
    request.volumeCapability = some plan.capability := by
  simp only [stagePlanOf, bind, Except.bind] at h
  split at h
  · cases h
  split at h
  · cases h
  split at h
  · cases h
  rename_i capability hc
  split at h
  · cases h
  · cases h
    exact hc

/-- A volume is staged under the options that its context gives. -/
theorem stage_asks {finder : Device.Finder} {request : NodeStageVolumeRequest} {o : VolumeOptions}
    (h : VolumeOptions.ofMap request.volumeContext = .ok o) :
    (stage finder request).Asks (MountsWith request.volumeCapability o) := by
  unfold stage
  rw [h]
  cases hplan : stagePlanOf request with
  | error f => exact asks_throw
  | ok plan =>
    have told := stagePlanOf_capability hplan
    have taken (p : StagePlan) : Service.ofExcept (.ok p) = pure p := rfl
    have read : Service.ofExcept (.ok o) = pure o := rfl
    simp only [taken, read, pure_bind]
    split
    · exact asks_pure
    · refine (asks_mounts fun _ _ _ _ _ e => by cases e).bind fun mounted => ?_
      split
      · exact asks_pure
      · have find : (Device.resolve finder plan.devicePath).Asks (MountsWith request.volumeCapability o) :=
          Device.resolve_asks (fun _ _ _ _ _ => nofun) (fun _ _ _ _ _ => nofun) (fun _ _ _ _ _ => nofun) plan.devicePath
        refine find.bind fun device => ?_
        refine (ensureFolder_asks fun _ _ _ _ _ e => by cases e).bind fun _ => ?_
        refine asks_mounts fun device staging fsType flags arguments e => ?_
        cases e
        exact ⟨plan.capability, told, rfl, rfl, rfl⟩

end NodeVolume

/-! ## Making -/

namespace Provisioning

section

variable {σ : Type} {E : Environment collaborators σ}

theorem createOn_responds (plan : Plan) (name node : String) (s : σ) :
    Ensures E (fun _ _ => True) (createOn plan name node)
      (fun response _ => ∃ zone, response = responseFor plan (handleOf plan name zone)) (fun _ _ => True) s := by
  unfold createOn
  refine ensures_bind.mpr (ensures_trivial.post (fun status t _ => ?_) fun _ _ h => h)
  refine ensures_bind.mpr (ensures_trivial.post (fun zone t _ => ?_) fun _ _ h => h)
  exact ensures_bind.mpr (ensures_trivial.post (fun _ t _ => ⟨zone, rfl⟩) fun _ _ h => h)

/-- Whatever the collaborators answer, what is told of a volume that is made follows from its plan and its handle. -/
theorem createVolume_responds {κ : Type} (fleet : Fleet κ) (request : CreateVolumeRequest) (s : σ) :
    Ensures E (fun _ _ => True) (createVolume fleet request)
      (fun response _ => ∃ plan zone, planOf fleet request = .ok plan ∧
        response = responseFor plan (handleOf plan request.name zone)) (fun _ _ => True) s := by
  unfold createVolume
  refine ensures_bind.mpr (ensures_ofExcept.mpr ?_)
  cases hplan : planOf fleet request with
  | error f => trivial
  | ok plan =>
    simp only [onOutcome]
    split
    · refine ensures_bind.mpr (ensures_trivial.post (fun node t _ => ?_) fun _ _ h => h)
      refine (createOn_responds plan request.name node t).post ?_ fun _ _ h => h
      rintro response u ⟨zone, h⟩
      exact ⟨plan, zone, rfl, h⟩
    · refine (createOn_responds plan request.name _ s).post ?_ fun _ _ h => h
      rintro response u ⟨zone, h⟩
      exact ⟨plan, zone, rfl, h⟩

end

/-- The device path is under a key that is no option's. -/
theorem contextDevicePath_other (path : String) :
    ∀ f ∈ VolumeOptions.fields, f.key ∉ ((∅ : StringMap).insert contextDevicePath path).keys := by
  have keys : ((∅ : StringMap).insert contextDevicePath path).keys = [contextDevicePath] := rfl
  rw [keys]
  decide

/-- **Options on their way to the node.** Options that were read from a map are read again from the map to which they
are written, whatever stands in it under other keys, and are written alike. So the context that is told of a volume when
it is made gives the options that were read from the request, and every node that stages a volume under this context
makes its file system and mounts it as these options say. -/
theorem options_carried :
    (∀ (m more : StringMap) (o : VolumeOptions), VolumeOptions.ofMap m = .ok o →
      (∀ f ∈ VolumeOptions.fields, f.key ∉ more.keys) →
        VolumeOptions.ofMap (o.toMap.extend more) = .ok o ∧
          (VolumeOptions.ofMap (o.toMap.extend more)).map VolumeOptions.toMap = .ok o.toMap) ∧
      ∀ {κ : Type} (fleet : Fleet κ) (request : CreateVolumeRequest) (past t : History)
        (response : CreateVolumeResponse), (createVolume fleet request).RunsTo anyAnswers past (.ok response) t →
          ∃ o path, VolumeOptions.ofMap request.parameters = .ok o ∧
            response.volume.volumeContext = o.toMap.insert contextDevicePath path ∧
            VolumeOptions.ofMap response.volume.volumeContext = .ok o ∧
            ∀ (finder : Device.Finder) (staging : NodeStageVolumeRequest),
              staging.volumeContext = response.volume.volumeContext →
                (NodeVolume.stage finder staging).Asks (NodeVolume.MountsWith staging.volumeCapability o) := by
  constructor
  · intro m more o read other
    have again := VolumeOptions.ofMap_toMap_extend read other
    exact ⟨again, by rw [again]; rfl⟩
  · intro κ fleet request past t response run
    obtain ⟨plan, zone, planned, rfl⟩ := (createVolume_responds fleet request past).runsTo_ok run
    have read := (planOf_read planned).1
    have again := VolumeOptions.ofMap_toMap_extend read
      (contextDevicePath_other (handleOf plan request.name zone).devicePath)
    refine ⟨plan.options, _, read, rfl, again, fun finder staging same => ?_⟩
    exact NodeVolume.stage_asks (same ▸ again)

/-- A volume on the second node whose options are given with blanks, in capital letters, with a sign, or empty. -/
def Uneven.tuned : CreateVolumeRequest :=
  { Uneven.request with
    parameters := TextMap.ofList
      [("storage", " data "), ("storageFormat", "qcow2"), ("cache", "none"), ("ssd", "YES"), ("backup", "No"),
        ("blockSize", "+04096"), ("replicateZones", " "), ("team", "a")] }

/-- The options of the volume. -/
def Uneven.options : VolumeOptions where
  storage := "data"
  format := some "qcow2"
  cache := some "none"
  ssd := true
  blockSize := some 4096

set_option maxRecDepth 4000 in
/-- Options that are given in other words are carried. -/
theorem options_carried_tuned :
    VolumeOptions.ofMap Uneven.tuned.parameters = .ok Uneven.options ∧
      VolumeOptions.ofMap (Uneven.options.toMap.extend ((∅ : StringMap).insert "team" "a")) = .ok Uneven.options ∧
      ∃ response, (Site.run (createVolume Uneven.fleet Uneven.tuned) Uneven.site).1 = .ok response ∧
        VolumeOptions.ofMap response.volume.volumeContext = .ok Uneven.options := by
  have read : VolumeOptions.ofMap Uneven.tuned.parameters = .ok Uneven.options := by
    have given : (VolumeOptions.ofMap Uneven.tuned.parameters).toOption = some Uneven.options := by decide +kernel
    cases h : VolumeOptions.ofMap Uneven.tuned.parameters with
    | error f => rw [h] at given; cases given
    | ok o => rw [h] at given; exact congrArg _ (Option.some.inj given)
  obtain ⟨again, made⟩ := options_carried
  refine ⟨read, (again _ ((∅ : StringMap).insert "team" "a") _ read (by decide)).1, ?_⟩
  have ends : (Site.run (createVolume Uneven.fleet Uneven.tuned) Uneven.site).1.isOk = true := by decide +kernel
  cases h : (Site.run (createVolume Uneven.fleet Uneven.tuned) Uneven.site).1 with
  | error f => rw [h] at ends; cases ends
  | ok response =>
    have run := h ▸ Site.runsTo_exchanges (createVolume Uneven.fleet Uneven.tuned) Uneven.site
    obtain ⟨o, path, taken, -, carried, -⟩ := made _ _ _ _ _ run
    obtain rfl : o = Uneven.options := Except.ok.inj (taken.symm.trans read)
    exact ⟨response, rfl, carried⟩

end Provisioning

end ClusterVolumes
