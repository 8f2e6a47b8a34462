import ClusterVolumes.Proofs.Provisioning.CreationCalls
import ClusterVolumes.Proofs.Provisioning.Reachability
import ClusterVolumes.Proofs.Volume.OptionsMap
import ClusterVolumes.Proofs.Volume.Sizing

/-!
# Free space where a volume would go

A request for free space names a place by its labels, and a request for a volume may prefer the same place
(`SamePlace`). Both services then look for the region, the node and the storage in their own ways: one reads the labels
and the map of parameters as they stand (`getCapacity_asks`), the other resolves a placement (`resolve_preferred`) and
reads the map through the table of options (`VolumeOptions.storage_ofMap`), which leaves out blanks at the ends of a
text.

So both ask the same node of the same region, and they ask for the same storage exactly if its name neither begins nor
ends with a blank; and where nothing else is wrong with a request, both find that no storage is named, or neither,
unless the name is made of blanks (`free_space_agrees`).
-/

namespace ClusterVolumes

open Csi Service
open Hypervisor (StorageStatus)

namespace Provisioning

/-! ## Where is asked -/

/-- A request for free space and one for a volume give the same parameters and speak of one place: the first one asks
for it, and the second one prefers it to all others. -/
structure SamePlace (ask : GetCapacityRequest) (make : CreateVolumeRequest) (t : Topology) : Prop where
  parameters : make.parameters = ask.parameters
  accessible : ask.accessibleTopology = some t
  preferred : ∃ requirement, make.accessibilityRequirements = some requirement ∧ requirement.preferred = [t]

/-- A place and a map of parameters name a region, a node and a storage. -/
structure Names (t : Topology) (m : StringMap) (region node storage : String) : Prop where
  inRegion : t.region? = some region
  onNode : (t.zone? <|> t.node?) = some node
  onStorage : m.get? "storage" = some storage
  storage_ne : storage ≠ ""

section

variable {κ : Type} {fleet : Fleet κ} {ask : GetCapacityRequest} {make : CreateVolumeRequest} {t : Topology}

/-- Free space is asked for as it is named. -/
theorem getCapacity_asks (accessible : ask.accessibleTopology = some t) :
    (getCapacity fleet ask).Asks fun call => ∃ region node storage, Names t ask.parameters region node storage ∧
      call = .cluster region (.storageStatus node storage) := by
  unfold getCapacity
  refine asks_required fun t' e => ?_
  obtain rfl : t = t' := Option.some.inj (accessible.symm.trans e)
  refine asks_required fun region inRegion => asks_required fun node onNode => asks_required fun storage found => ?_
  obtain ⟨onStorage, named⟩ := Option.filter_eq_some_iff.mp found
  have names : Names t ask.parameters region node storage := ⟨inRegion, onNode, onStorage, by simpa using named⟩
  refine asks_ofExcept.bind fun _ => ((asks_cluster ⟨region, node, storage, names, rfl⟩).attempt).bind fun x => ?_
  cases x with
  | ok status => exact asks_pure
  | error f =>
    dsimp only
    split
    · exact asks_pure
    · exact asks_throw

/-- What is preferred to all else is where the volume goes, if its region and its node are known. -/
theorem resolve_preferred {requirement : TopologyRequirement} (alone : requirement.preferred = [t])
    {region node : String} (inRegion : t.region? = some region) (onNode : (t.zone? <|> t.node?) = some node) :
    (Placement.resolve requirement).region = some region ∧ (Placement.resolve requirement).landsOn = node ∧
      node.isEmpty = false := by
  have complete : (Placement.absorb {} t).complete = true := by
    cases zone : t.zone? <;> simp_all [Placement.absorb, Placement.complete]
  have resolved : Placement.resolve requirement = Placement.absorb {} t := by
    unfold Placement.resolve
    rw [alone, List.singleton_append, Placement.gather, if_pos complete]
  rw [resolved]
  refine ⟨inRegion, ?_, ?_⟩
  · show (t.zone? <|> t.node?).getD "" = node
    rw [onNode]
    rfl
  · cases zone : t.zone? with
    | some z =>
      rw [zone] at onNode
      cases onNode
      exact Topology.zone?_ne zone
    | none =>
      rw [zone] at onNode
      exact Topology.get?_ne onNode

section

variable {plan : Plan} {v : VolumeHandle} {region node node' storage name : String} {x : Except Failure StorageStatus}
  {made : History}

/-- Nobody is asked for the state of a storage while a disk is provided, -/
theorem Provides.unmeasured {outcome : Except Failure Unit} (h : Provides plan node' v outcome made) :
    measuring region node storage x ∉ made := by
  intro mem
  cases h with
  | made =>
    rcases List.mem_cons.mp mem with e | mem
    · cases e
    · cases List.mem_singleton.mp mem
  | unmade =>
    rcases List.mem_cons.mp mem with e | mem
    · cases e
    · cases List.mem_singleton.mp mem
  | _ => cases List.mem_singleton.mp mem

/-- nor while the node is looked for. -/
theorem Sited.unmeasured {outcome : Except Failure String} (h : Sited plan outcome made) :
    measuring region node storage x ∉ made := by
  intro mem
  cases h with
  | named => cases mem
  | _ => cases List.mem_singleton.mp mem

/-- A node is asked for the state of the storage of the plan, -/
theorem MakesOn.measures {outcome : Except Failure CreateVolumeResponse} (h : MakesOn plan node name outcome made) :
    ∃ x, measuring plan.region node plan.options.storage x ∈ made := by
  cases h with
  | untold => exact ⟨_, List.mem_singleton_self _⟩
  | unzoned => exact ⟨_, List.mem_singleton_self _⟩
  | provided => exact ⟨_, List.mem_append_right _ (List.mem_singleton_self _)⟩

/-- and for nothing else of the kind. -/
theorem MakesOn.measured {outcome : Except Failure CreateVolumeResponse} (h : MakesOn plan node' name outcome made)
    (mem : measuring region node storage x ∈ made) :
    region = plan.region ∧ node = node' ∧ storage = plan.options.storage := by
  have same {y : Except Failure StorageStatus}
      (mem : measuring region node storage x ∈ [measuring plan.region node' plan.options.storage y]) :
      region = plan.region ∧ node = node' ∧ storage = plan.options.storage := by
    cases List.mem_singleton.mp mem
    exact ⟨rfl, rfl, rfl⟩
  cases h with
  | untold => exact same mem
  | unzoned => exact same mem
  | provided _ provides =>
    rcases List.mem_append.mp mem with mem | mem
    · exact absurd (History.cluster_mem_locked.mp mem) provides.unmeasured
    · exact same mem

/-- A storage is asked for as the plan has it, on the node where the volume lands. -/
theorem Creation.measured {outcome : Except Failure CreateVolumeResponse} (h : Creation fleet make outcome made)
    (mem : measuring region node storage x ∈ made) : ∃ plan, planOf fleet make = .ok plan ∧ region = plan.region ∧
      storage = plan.options.storage ∧ (plan.placement.landsOn.isEmpty = false → node = plan.placement.landsOn) := by
  cases h with
  | refused => cases mem
  | unsited _ sited => exact absurd mem sited.unmeasured
  | @sited plan node' outcome made more planned sited makes =>
    obtain ⟨inRegion, onNode, onStorage⟩ :=
      makes.measured ((List.mem_append.mp mem).resolve_right sited.unmeasured)
    refine ⟨plan, planned, inRegion, onStorage, fun named => onNode.trans ?_⟩
    cases sited with
    | named => rfl
    | online anywhere => simp [anywhere] at named

end

/-! ## Requests that name no storage -/

/-- What is told of a request that names no storage. -/
def storageMissing : Failure :=
  .invalidArgument "parameter storage is required"

theorem invalid_ne_storageMissing {α : Type} {why : String} (other : why ≠ "parameter storage is required") :
    (.error (.invalidArgument why) : Except Failure α) ≠ .error storageMissing := by
  intro e
  exact other (Failure.invalidArgument.inj (Except.error.inj e))

/-- What is wrong with the region is not that the storage is missing. -/
theorem get_ne_storageMissing {region : String} : fleet.get region ≠ .error storageMissing := by
  unfold Fleet.get
  intro e
  split at e
  · cases e
  · cases e

/-- The storage that a request for free space names is missing if its text is empty. -/
theorem filter_storage_eq_none_iff {m : StringMap} :
    ((m.get? "storage").filter fun s => !s.isEmpty) = none ↔ m.getText "storage" = "" := by
  unfold TextMap.getText
  cases m.get? "storage" with
  | none => simp
  | some s => simp

/-- A request for free space is refused for its storage exactly if it names a region and a node, and no storage. -/
theorem getCapacity_refuses_iff (accessible : ask.accessibleTopology = some t) :
    (getCapacity fleet ask).RunsTo anyAnswers [] (.error storageMissing) [] ↔
      t.region?.isSome = true ∧ (t.zone? <|> t.node?).isSome = true ∧ ask.parameters.getText "storage" = "" := by
  rw [← filter_storage_eq_none_iff]
  unfold getCapacity
  constructor
  · intro run
    obtain ⟨t', e, run⟩ | ⟨-, e, -⟩ := runsTo_required.mp run
    swap
    · exact absurd e.symm (invalid_ne_storageMissing (by decide))
    obtain rfl : t = t' := Option.some.inj (accessible.symm.trans e)
    obtain ⟨region, inRegion, run⟩ | ⟨-, e, -⟩ := runsTo_required.mp run
    swap
    · exact absurd e.symm (invalid_ne_storageMissing (by decide))
    obtain ⟨node, onNode, run⟩ | ⟨-, e, -⟩ := runsTo_required.mp run
    swap
    · exact absurd e.symm (invalid_ne_storageMissing (by decide))
    obtain ⟨storage, -, run⟩ | ⟨missing, -, -⟩ := runsTo_required.mp run
    swap
    · exact ⟨by simp [inRegion], by simp [onNode], missing⟩
    -- with a storage, the region is not known or the node is asked
    obtain ⟨c, u, known, run⟩ | ⟨f, e, unknown⟩ := runsTo_bind.mp run
    · obtain ⟨-, rfl⟩ := runsTo_ofExcept.mp known
      obtain ⟨x, u, asked, run⟩ | ⟨f, -, asked⟩ := runsTo_bind.mp run
      · obtain ⟨o, -, asked⟩ := runsTo_attempt.mp asked
        obtain rfl := runsTo_cluster.mp asked
        exact absurd (List.suffix_nil.mp (Program.RunsTo.grows run)) (List.cons_ne_nil _ _)
      · obtain ⟨o, e, -⟩ := runsTo_attempt.mp asked
        cases e
    · cases e
      exact absurd (runsTo_ofExcept.mp unknown).1.symm get_ne_storageMissing
  · rintro ⟨inRegion, onNode, missing⟩
    obtain ⟨region, inRegion⟩ := Option.isSome_iff_exists.mp inRegion
    obtain ⟨node, onNode⟩ := Option.isSome_iff_exists.mp onNode
    refine runsTo_required.mpr (.inl ⟨t, accessible, runsTo_required.mpr (.inl ⟨region, inRegion, ?_⟩)⟩)
    exact runsTo_required.mpr (.inl ⟨node, onNode, runsTo_required.mpr (.inr ⟨missing, rfl, rfl⟩)⟩)

/-- A request for a volume ends before anyone is asked exactly if it gives no plan. -/
theorem createVolume_refuses_iff {f : Failure} :
    (createVolume fleet make).RunsTo anyAnswers [] (.error f) [] ↔ planOf fleet make = .error f := by
  constructor
  · intro run
    have course := createVolume_takes fleet make _ _ run
    generalize none : ([] : History) = made at course
    cases course with
    | refused unplanned => exact unplanned
    | unsited planned sited => cases sited <;> cases none
    | sited planned sited makes =>
      obtain ⟨x, mem⟩ := makes.measures
      rw [(List.append_eq_nil_iff.mp none.symm).1] at mem
      cases mem
  · intro unplanned
    unfold createVolume
    rw [unplanned]
    exact runsTo_bind.mpr (.inr ⟨f, rfl, runsTo_ofExcept.mpr ⟨rfl, rfl⟩⟩)

/-- What is wrong with an option is not that the storage is missing. -/
theorem ofMap_ne_storageMissing {m : StringMap} : VolumeOptions.ofMap m ≠ .error storageMissing := by
  intro refused
  obtain ⟨f, mem, why, e⟩ := VolumeOptions.readFields_error refused
  have text := congrArg String.toList (Failure.invalidArgument.inj e)
  have begins : ∀ f ∈ VolumeOptions.fields,
      ¬("parameter " ++ f.key ++ " must be ").toList <+: "parameter storage is required".toList := by decide
  refine begins f mem ⟨why.toList, ?_⟩
  rw [text]
  simp [String.toList_append]

/-- What is wrong with the size is not that the storage is missing. -/
theorem requestedSize_ne_storageMissing {range : Option CapacityRange} :
    requestedSize range ≠ .error storageMissing := by
  have other {start why : String} (begins : start.toList.head? = some 'l' ∨ start.toList.head? = some 'r') :
      start ++ why ≠ "parameter storage is required" := by
    intro e
    have first : (start ++ why).toList.head? = some 'p' := by rw [e]; rfl
    rw [String.toList_append, List.head?_append] at first
    rcases begins with begins | begins <;> rw [begins] at first <;> cases first
  intro refused
  obtain ⟨why, e | e⟩ := CapacityRange.requestedSize_error refused
  · exact other (.inl rfl) (Failure.invalidArgument.inj e).symm
  · exact other (.inr rfl) (Failure.invalidArgument.inj e).symm

/-- A request for a volume gives no plan for want of a storage exactly if it has a name and capabilities, its parameters
can be read, and the storage that is read is empty. -/
theorem planOf_missing_iff : planOf fleet make = .error storageMissing ↔ make.name ≠ "" ∧
    make.volumeCapabilities ≠ [] ∧ ∃ o, VolumeOptions.ofMap make.parameters = .ok o ∧ o.storage = "" := by
  have invalid {why : String} (other : why ≠ "parameter storage is required") {P : Prop} (never : ¬P) :
      (.error (.invalidArgument why) : Except Failure Plan) = .error storageMissing ↔ P :=
    iff_of_false (invalid_ne_storageMissing other) never
  simp only [planOf, bind, Except.bind, throw, throwThe, MonadExceptOf.throw, pure, Except.pure]
  split
  · rename_i unnamed
    exact invalid (by decide) fun h => h.1 (String.isEmpty_iff.mp unnamed)
  rename_i named
  split
  · rename_i incapable
    exact invalid (by decide) fun h => h.2.1 (List.isEmpty_iff.mp incapable)
  rename_i capable
  cases read : VolumeOptions.ofMap make.parameters with
  | error e =>
    refine iff_of_false (fun told => ?_) (by rintro ⟨-, -, o, e, -⟩; cases e)
    refine ofMap_ne_storageMissing (m := make.parameters) ?_
    exact read.trans (congrArg _ (Except.error.inj (told : (.error e : Except Failure Plan) = _)))
  | ok o =>
    have there : make.name ≠ "" ∧ make.volumeCapabilities ≠ [] :=
      ⟨fun e => named (String.isEmpty_iff.mpr e), fun e => capable (List.isEmpty_iff.mpr e)⟩
    simp only
    split
    · rename_i missing
      exact iff_of_true rfl ⟨there.1, there.2, o, rfl, String.isEmpty_iff.mp missing⟩
    rename_i stored
    refine iff_of_false (fun told => ?_) fun h => ?_
    · split at told
      · rename_i e size
        exact requestedSize_ne_storageMissing (size.trans (congrArg _ (Except.error.inj told)))
      split at told
      · exact invalid_ne_storageMissing (by decide) told
      split at told
      · rename_i e unknown
        exact get_ne_storageMissing (unknown.trans (congrArg _ (Except.error.inj told)))
      · cases told
    · obtain ⟨-, -, o', e, missing⟩ := h
      cases e
      exact stored (String.isEmpty_iff.mpr missing)

/-! ## Both services -/

/-- How far the two services look at the same place.
- `asks`: if both ask for the state of a storage, they ask the same node of the same region, and the volume goes to the
  storage whose name is left without blanks at its ends;
- `capacity_refuses_iff`, `creation_refuses_iff`: when each of them is refused because no storage is named;
- `refused_alike_iff`: where nothing else is wrong, they are refused alike unless the name is made of blanks. -/
structure Agrees {κ : Type} (fleet : Fleet κ) (ask : GetCapacityRequest) (make : CreateVolumeRequest) (t : Topology) :
    Prop where
  asks : ∀ outcome made outcome' made' region node storage x region' node' storage' x',
    (getCapacity fleet ask).RunsTo anyAnswers [] outcome made →
      (createVolume fleet make).RunsTo anyAnswers [] outcome' made' →
      measuring region node storage x ∈ made → measuring region' node' storage' x' ∈ made' →
        region' = region ∧ node' = node ∧ storage' = Text.trim storage ∧ (storage' = storage ↔ ¬Text.Padded storage)
  capacity_refuses_iff : (getCapacity fleet ask).RunsTo anyAnswers [] (.error storageMissing) [] ↔
    t.region?.isSome = true ∧ (t.zone? <|> t.node?).isSome = true ∧ ask.parameters.getText "storage" = ""
  creation_refuses_iff : (createVolume fleet make).RunsTo anyAnswers [] (.error storageMissing) [] ↔
    make.name ≠ "" ∧ make.volumeCapabilities ≠ [] ∧ (∃ o, VolumeOptions.ofMap make.parameters = .ok o) ∧
      Text.trim (ask.parameters.getText "storage") = ""
  refused_alike_iff : t.region?.isSome = true → (t.zone? <|> t.node?).isSome = true → make.name ≠ "" →
    make.volumeCapabilities ≠ [] → (∃ o, VolumeOptions.ofMap make.parameters = .ok o) →
      (((getCapacity fleet ask).RunsTo anyAnswers [] (.error storageMissing) [] ↔
          (createVolume fleet make).RunsTo anyAnswers [] (.error storageMissing) []) ↔
        (Text.trim (ask.parameters.getText "storage") = "" → ask.parameters.getText "storage" = ""))

/-- Both ask the same node of the same region for a storage of the same name, blanks at its ends aside. -/
theorem SamePlace.asks (same : SamePlace ask make t) {outcome : Except Failure GetCapacityResponse}
    {outcome' : Except Failure CreateVolumeResponse} {made made' : History}
    (asked : (getCapacity fleet ask).RunsTo anyAnswers [] outcome made)
    (created : (createVolume fleet make).RunsTo anyAnswers [] outcome' made')
    {region node storage region' node' storage' : String} {x x' : Except Failure StorageStatus}
    (mem : measuring region node storage x ∈ made) (mem' : measuring region' node' storage' x' ∈ made') :
    region' = region ∧ node' = node ∧ storage' = Text.trim storage := by
  obtain ⟨r, n, st, names, call⟩ := (getCapacity_asks same.accessible).takes _ _ asked _ mem
  cases call
  obtain ⟨plan, planned, rfl, rfl, lands⟩ := (createVolume_takes fleet make _ _ created).measured mem'
  obtain ⟨requirement, required, alone⟩ := same.preferred
  obtain ⟨inRegion, onNode, named⟩ := resolve_preferred alone names.inRegion names.onNode
  obtain ⟨options, -, -, regioned⟩ := planOf_read planned
  have placed := planOf_placement planned
  rw [required, Option.getD_some] at regioned placed
  rw [placed, onNode] at lands
  refine ⟨Option.some.inj (regioned.symm.trans inRegion), lands named, ?_⟩
  rw [VolumeOptions.storage_ofMap options, same.parameters, TextMap.getText, names.onStorage]
  rfl

/-- A request for a volume is refused for its storage exactly if it has a name and capabilities, its parameters can be
read, and the name of the storage is made of blanks at most. -/
theorem SamePlace.creation_refuses_iff (same : SamePlace ask make t) :
    (createVolume fleet make).RunsTo anyAnswers [] (.error storageMissing) [] ↔
      make.name ≠ "" ∧ make.volumeCapabilities ≠ [] ∧ (∃ o, VolumeOptions.ofMap make.parameters = .ok o) ∧
        Text.trim (ask.parameters.getText "storage") = "" := by
  rw [createVolume_refuses_iff, planOf_missing_iff, ← same.parameters]
  refine and_congr_right fun _ => and_congr_right fun _ => ?_
  constructor
  · rintro ⟨o, read, missing⟩
    exact ⟨⟨o, read⟩, (VolumeOptions.storage_ofMap read).symm.trans missing⟩
  · rintro ⟨⟨o, read⟩, missing⟩
    exact ⟨o, read, (VolumeOptions.storage_ofMap read).trans missing⟩

/-- **Free space is asked for where a volume would go**, but for blanks at the ends of the storage's name: they are part
of the name when free space is asked for, and no part of it when a volume is made. -/
theorem free_space_agrees {κ : Type} (fleet : Fleet κ) {ask : GetCapacityRequest} {make : CreateVolumeRequest}
    {t : Topology} (same : SamePlace ask make t) : Agrees fleet ask make t where
  asks := by
    intro outcome made outcome' made' region node storage x region' node' storage' x' asked created mem mem'
    obtain ⟨inRegion, onNode, rfl⟩ := same.asks asked created mem mem'
    exact ⟨inRegion, onNode, rfl, Text.trim_eq_self_iff⟩
  capacity_refuses_iff := getCapacity_refuses_iff same.accessible
  creation_refuses_iff := same.creation_refuses_iff
  refused_alike_iff := by
    intro inRegion onNode named capable read
    rw [getCapacity_refuses_iff same.accessible, same.creation_refuses_iff]
    have blank : ask.parameters.getText "storage" = "" → Text.trim (ask.parameters.getText "storage") = "" := by
      intro e
      rw [e]
      rfl
    constructor
    · intro alike missing
      exact (alike.mpr ⟨named, capable, read, missing⟩).2.2
    · intro plain
      exact ⟨fun h => ⟨named, capable, read, blank h.2.2⟩, fun h => ⟨inRegion, onNode, plain h.2.2.2⟩⟩

end

/-! ### Names between blanks -/

namespace Spaced

/-- A node of the region. -/
def place : Topology :=
  ⟨((∅ : StringMap).insert Label.region "r1").insert Label.zone "z2"⟩

/-- A request for the free space on a storage of the node. -/
def ask (storage : String) : GetCapacityRequest where
  parameters := (∅ : StringMap).insert "storage" storage
  accessibleTopology := some place

/-- A request for a volume on a storage of the node. -/
def make (storage : String) : CreateVolumeRequest :=
  { Uneven.request with parameters := (∅ : StringMap).insert "storage" storage }

theorem same (storage : String) : SamePlace (ask storage) (make storage) place :=
  ⟨rfl, rfl, _, rfl, rfl⟩

end Spaced

set_option maxRecDepth 8000 in
/-- A name without blanks: both services ask the second node for the storage. -/
theorem free_space_agrees_plain : SamePlace (Spaced.ask "data") (Spaced.make "data") Spaced.place ∧
    Agrees Uneven.fleet (Spaced.ask "data") (Spaced.make "data") Spaced.place ∧
      (∃ x, measuring "r1" "z2" "data" x ∈ Site.exchanges (getCapacity Uneven.fleet (Spaced.ask "data")) Uneven.site) ∧
      ∃ x, measuring "r1" "z2" "data" x ∈
        Site.exchanges (createVolume Uneven.fleet (Spaced.make "data")) Uneven.site := by
  have measured : (Site.exchanges (getCapacity Uneven.fleet (Spaced.ask "data")) Uneven.site)[0]? =
      some (measuring "r1" "z2" "data" (.ok { shared := true })) := by rfl
  have created : (Site.exchanges (createVolume Uneven.fleet (Spaced.make "data")) Uneven.site)[4]? =
      some (measuring "r1" "z2" "data" (.ok { shared := true })) := by rfl
  exact ⟨Spaced.same "data", free_space_agrees Uneven.fleet (Spaced.same "data"),
    ⟨_, List.mem_of_getElem? measured⟩, ⟨_, List.mem_of_getElem? created⟩⟩

set_option maxRecDepth 8000 in
/-- With blanks around the name the two services ask for different storages, and a name of blanks is refused by one of
them only. -/
theorem free_space_asks_elsewhere : SamePlace (Spaced.ask " data ") (Spaced.make " data ") Spaced.place ∧
    (∃ x, measuring "r1" "z2" " data " x ∈
      Site.exchanges (getCapacity Uneven.fleet (Spaced.ask " data ")) Uneven.site) ∧
    (∃ x, measuring "r1" "z2" "data" x ∈
      Site.exchanges (createVolume Uneven.fleet (Spaced.make " data ")) Uneven.site) ∧
    SamePlace (Spaced.ask " ") (Spaced.make " ") Spaced.place ∧
    (createVolume Uneven.fleet (Spaced.make " ")).RunsTo anyAnswers [] (.error storageMissing) [] ∧
    ¬(getCapacity Uneven.fleet (Spaced.ask " ")).RunsTo anyAnswers [] (.error storageMissing) [] := by
  have measured : (Site.exchanges (getCapacity Uneven.fleet (Spaced.ask " data ")) Uneven.site)[0]? =
      some (measuring "r1" "z2" " data " (.error (Site.ClusterState.unknownStorage "r1" " data "))) := by rfl
  have created : (Site.exchanges (createVolume Uneven.fleet (Spaced.make " data ")) Uneven.site)[4]? =
      some (measuring "r1" "z2" "data" (.ok { shared := true })) := by rfl
  have read : (VolumeOptions.ofMap (Spaced.make " ").parameters).isOk = true := by decide +kernel
  have options : ∃ o, VolumeOptions.ofMap (Spaced.make " ").parameters = .ok o := by
    cases h : VolumeOptions.ofMap (Spaced.make " ").parameters with
    | error f => rw [h] at read; cases read
    | ok o => exact ⟨o, rfl⟩
  refine ⟨Spaced.same " data ", ⟨_, List.mem_of_getElem? measured⟩, ⟨_, List.mem_of_getElem? created⟩,
    Spaced.same " ", ?_, fun refused => ?_⟩
  · exact (Spaced.same " ").creation_refuses_iff.mpr ⟨by decide, by decide, options, by decide +kernel⟩
  · have blank := ((getCapacity_refuses_iff (Spaced.same " ").accessible).mp refused).2.2
    exact absurd blank (by decide +kernel)

end Provisioning

end ClusterVolumes
