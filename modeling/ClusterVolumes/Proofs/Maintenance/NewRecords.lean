import ClusterVolumes.Maintenance.Relocate
import ClusterVolumes.Proofs.History
import Mathlib.Data.List.Forall2

/-!
# The new record of a moved volume

The record of a volume is deep: conditions in terms, terms in a selector, each of which may be missing. `Rewritten` says
at each depth what is another one in the record of a moved volume, and that all else is the same. It leaves nothing
open: there is one record to which a volume may be rewritten, and `relocated` gives it (`rewritten_iff`). Rewriting
again depends on the last handle, zone and policy alone (`relocated_relocated`).

Whatever the collaborators answer, a volume is only made anew from a record that was told before
(`Maintenance.recordAnew_makes`).
-/

namespace ClusterVolumes

/-- A relation that is a function, between optional values. -/
theorem optionRel_iff_map_eq {α β : Type} {R : α → β → Prop} {f : α → β} (h : ∀ a b, R a b ↔ f a = b) {o : Option α}
    {o' : Option β} : Option.Rel R o o' ↔ o.map f = o' := by
  constructor
  · rintro (⟨rel⟩ | _)
    · exact congrArg some ((h _ _).mp rel)
    · rfl
  · rintro rfl
    cases o with
    | none => exact .none
    | some a => exact .some ((h a _).mpr rfl)

/-- A relation that is a function, along lists. -/
theorem forall₂_iff_map_eq {α β : Type} {R : α → β → Prop} {f : α → β} (h : ∀ a b, R a b ↔ f a = b) {l : List α}
    {l' : List β} : List.Forall₂ R l l' ↔ l.map f = l' := by
  obtain rfl : R = fun a b => f a = b := funext₂ fun a b => propext (h a b)
  rw [← List.forall₂_eq_eq_eq, List.forall₂_map_left_iff]

namespace Orchestrator

variable {zone policy : String} {handle : VolumeHandle}

/-! ## Conditions on nodes -/

/-- A condition that ties a volume to a zone ties it to the given one; any other condition is the same. -/
structure NodeExpression.Rezoned (zone : String) (e e' : NodeExpression) : Prop where
  key : e'.key = e.key
  operator : e'.operator = e.operator
  tied : e.key ∈ zoneLabels → e'.values = some [zone]
  untied : e.key ∉ zoneLabels → e'.values = e.values

theorem NodeExpression.rezoned_iff (e e' : NodeExpression) : e.Rezoned zone e' ↔ e.inZone zone = e' := by
  unfold NodeExpression.inZone
  constructor
  · intro h
    obtain ⟨key, operator, values⟩ := e'
    obtain ⟨rfl, rfl, tied, untied⟩ := h
    split
    · rename_i mem
      rw [← tied mem]
    · rename_i other
      exact congrArg (mk e.key e.operator) (untied other).symm
  · rintro rfl
    split
    · rename_i mem
      exact ⟨rfl, rfl, fun _ => rfl, fun other => absurd mem other⟩
    · rename_i other
      exact ⟨rfl, rfl, fun mem => absurd mem other, fun _ => rfl⟩

/-- A term has its conditions in the same number and order, and the same conditions on fields. -/
structure NodeTerm.Rezoned (zone : String) (t t' : NodeTerm) : Prop where
  matchExpressions : Option.Rel (List.Forall₂ (NodeExpression.Rezoned zone)) t.matchExpressions t'.matchExpressions
  matchFields : t'.matchFields = t.matchFields

theorem NodeTerm.rezoned_iff (t t' : NodeTerm) : t.Rezoned zone t' ↔ t.inZone zone = t' := by
  have conditions (l l' : List NodeExpression) : List.Forall₂ (NodeExpression.Rezoned zone) l l' ↔
      l.map (NodeExpression.inZone zone) = l' := forall₂_iff_map_eq NodeExpression.rezoned_iff
  have expressions : Option.Rel _ t.matchExpressions t'.matchExpressions ↔ _ := optionRel_iff_map_eq conditions
  constructor
  · rintro ⟨rel, same⟩
    exact congrArg₂ mk (expressions.mp rel) same.symm
  · rintro rfl
    exact ⟨expressions.mpr rfl, rfl⟩

/-- The terms are in the same number and order. -/
def NodeAffinity.Rezoned (zone : String) (a a' : NodeAffinity) : Prop :=
  Option.Rel (fun s s' => List.Forall₂ (NodeTerm.Rezoned zone) s.terms s'.terms) a.required a'.required

theorem NodeAffinity.rezoned_iff (a a' : NodeAffinity) : a.Rezoned zone a' ↔ a.inZone zone = a' := by
  have selector (s s' : NodeSelector) : List.Forall₂ (NodeTerm.Rezoned zone) s.terms s'.terms ↔
      { s with terms := s.terms.map (NodeTerm.inZone zone) } = s' := by
    rw [forall₂_iff_map_eq NodeTerm.rezoned_iff]
    constructor
    · intro same
      exact congrArg NodeSelector.mk same
    · rintro rfl
      rfl
  rw [NodeAffinity.Rezoned, optionRel_iff_map_eq selector]
  constructor
  · intro same
    exact congrArg NodeAffinity.mk same
  · rintro rfl
    rfl

/-! ## Volumes -/

/-- A driver's part of a volume has another handle and is the same otherwise. -/
structure DriverSource.Rewritten (handle : VolumeHandle) (d d' : DriverSource) : Prop where
  volumeHandle : d'.volumeHandle = handle.text
  same : { d' with volumeHandle := d.volumeHandle } = d

theorem DriverSource.rewritten_iff (d d' : DriverSource) :
    d.Rewritten handle d' ↔ { d with volumeHandle := handle.text } = d' := by
  constructor
  · rintro ⟨told, same⟩
    rw [← same, ← told]
  · rintro rfl
    exact ⟨rfl, rfl⟩

/-- A volume has another policy, handle and zone, and is the same otherwise. -/
structure VolumeSpec.Rewritten (handle : VolumeHandle) (zone policy : String) (s s' : VolumeSpec) : Prop where
  reclaimPolicy : s'.reclaimPolicy = some policy
  source : Option.Rel (DriverSource.Rewritten handle) s.source s'.source
  nodeAffinity : Option.Rel (NodeAffinity.Rezoned zone) s.nodeAffinity s'.nodeAffinity
  same : { s' with reclaimPolicy := s.reclaimPolicy, source := s.source, nodeAffinity := s.nodeAffinity } = s

theorem VolumeSpec.rewritten_iff (s s' : VolumeSpec) :
    s.Rewritten handle zone policy s' ↔ s.relocated handle zone policy = s' := by
  constructor
  · rintro ⟨told, source, affinity, same⟩
    rw [optionRel_iff_map_eq DriverSource.rewritten_iff] at source
    rw [optionRel_iff_map_eq NodeAffinity.rezoned_iff] at affinity
    rw [VolumeSpec.relocated, source, affinity, ← told, ← same]
  · rintro rfl
    exact ⟨rfl, (optionRel_iff_map_eq DriverSource.rewritten_iff).mpr rfl,
      (optionRel_iff_map_eq NodeAffinity.rezoned_iff).mpr rfl, rfl⟩

/-- A record has the name, the labels and the annotations of another one and no other metadata, and no status. Its volume
is there if the other one's is, and is rewritten. -/
structure VolumeRecord.Rewritten (handle : VolumeHandle) (zone policy : String) (v v' : VolumeRecord) : Prop where
  metadata : v'.metadata =
    { name := v.metadata.name, labels := v.metadata.labels, annotations := v.metadata.annotations }
  spec : Option.Rel (VolumeSpec.Rewritten handle zone policy) v.spec v'.spec
  status : v'.status = none

/-- There is one record to which a record may be rewritten. -/
theorem VolumeRecord.rewritten_iff (v v' : VolumeRecord) :
    v.Rewritten handle zone policy v' ↔ v.relocated handle zone policy = v' := by
  constructor
  · rintro ⟨metadata, spec, status⟩
    rw [optionRel_iff_map_eq VolumeSpec.rewritten_iff] at spec
    rw [VolumeRecord.relocated, spec, ← metadata, ← status]
  · rintro rfl
    exact ⟨rfl, (optionRel_iff_map_eq VolumeSpec.rewritten_iff).mpr rfl, rfl⟩

/-! ## Rewriting again -/

theorem NodeExpression.inZone_inZone (first zone : String) (e : NodeExpression) :
    (e.inZone first).inZone zone = e.inZone zone := by
  by_cases mem : e.key ∈ zoneLabels
  · simp [NodeExpression.inZone, mem]
  · simp [NodeExpression.inZone, mem]

theorem NodeTerm.inZone_inZone (first zone : String) (t : NodeTerm) :
    (t.inZone first).inZone zone = t.inZone zone := by
  simp [NodeTerm.inZone, Function.comp_def, NodeExpression.inZone_inZone]

theorem NodeAffinity.inZone_inZone (first zone : String) (a : NodeAffinity) :
    (a.inZone first).inZone zone = a.inZone zone := by
  simp [NodeAffinity.inZone, Function.comp_def, NodeTerm.inZone_inZone]

theorem VolumeSpec.relocated_relocated (first : VolumeHandle) (firstZone firstPolicy : String) (handle : VolumeHandle)
    (zone policy : String) (s : VolumeSpec) :
    (s.relocated first firstZone firstPolicy).relocated handle zone policy = s.relocated handle zone policy := by
  simp [VolumeSpec.relocated, Function.comp_def, NodeAffinity.inZone_inZone]

/-- Of two rewritings the last one counts. -/
theorem VolumeRecord.relocated_relocated (first : VolumeHandle) (firstZone firstPolicy : String) (handle : VolumeHandle)
    (zone policy : String) (v : VolumeRecord) :
    (v.relocated first firstZone firstPolicy).relocated handle zone policy = v.relocated handle zone policy := by
  simp [VolumeRecord.relocated, Function.comp_def, VolumeSpec.relocated_relocated]

end Orchestrator

/-! ## Recording anew -/

open Orchestrator
open Service

/-- Does the call make a volume? -/
def Call.makesVolume : Call → Bool
  | .orchestrator (.createVolume _) => true
  | _ => false

namespace Maintenance

/-- A volume may only be made as a record of its name that was told before, rewritten under the policy that was told
before. -/
def MakesRewritten (name : String) (handle : VolumeHandle) (zone : String) (past : History) (call : Call) : Prop :=
  ∀ made, call = .orchestrator (.createVolume made) → ∃ first current : VolumeRecord,
    Exchange.orchestrator (.volume name) (.ok (some first)) ∈ past ∧
      Exchange.orchestrator (.volume name) (.ok (some current)) ∈ past ∧
      current.Rewritten handle zone ((first.spec.bind (·.reclaimPolicy)).getD "Delete") made

variable {P : History → Call → Prop} {past : History}

/-- The record of a volume is asked for, and it is the one that is told. -/
theorem ask_volumeRecord {name : String} {good : VolumeRecord → History → Prop}
    (hP : P past (.orchestrator (.volume name)))
    (hg : ∀ v, good v (Exchange.orchestrator (.volume name) (.ok (some v)) :: past)) :
    Ensures anyAnswers P (volumeRecord name) good (fun _ _ => True) past := by
  refine ensures_bind.mpr (ask_orchestrator hP (fun o => ?_) fun _ => trivial)
  refine ensures_require.mpr ⟨?_, fun _ => trivial⟩
  rintro v rfl
  exact hg v

/-- The policy that comes back when a volume is retained was told with its record. -/
theorem retain_tells (name : String) (hP : ∀ past call, call.makesVolume = false → P past call) :
    Ensures anyAnswers P (retain name)
      (fun policy t => ∃ first : VolumeRecord, Exchange.orchestrator (.volume name) (.ok (some first)) ∈ t ∧
        (first.spec.bind (·.reclaimPolicy)).getD "Delete" = policy)
      (fun _ _ => True) past := by
  unfold retain
  refine ensures_bind.mpr (ask_volumeRecord (hP _ _ rfl) fun first => ?_)
  simp only
  split
  · exact ⟨first, List.mem_cons_self, rfl⟩
  · unfold setPolicy
    refine ensures_bind.mpr (ensures_bind.mpr (ask_volumeRecord (hP _ _ rfl) fun _ => ?_))
    simp only
    split
    · exact ⟨first, List.mem_cons_of_mem _ List.mem_cons_self, rfl⟩
    · refine ensures_bind.mpr (ask_orchestrator (hP _ _ rfl) (fun _ => ?_) fun _ => trivial)
      exact ⟨first, List.mem_cons_of_mem _ (List.mem_cons_of_mem _ List.mem_cons_self), rfl⟩

theorem recordAnew_makes (name : String) (handle : VolumeHandle) (zone : String) (past : History) :
    Ensures anyAnswers (MakesRewritten name handle zone) (recordAnew name handle zone) (fun _ _ => True)
      (fun _ _ => True) past := by
  have others : ∀ past call, call.makesVolume = false → MakesRewritten name handle zone past call := by
    rintro _ _ other made rfl
    cases other
  unfold recordAnew
  refine ensures_bind.mpr ((retain_tells name others).post ?_ fun _ _ _ => trivial)
  rintro _ t ⟨first, told, rfl⟩
  refine ensures_bind.mpr (ask_volumeRecord (others _ _ rfl) fun current => ?_)
  refine ensures_bind.mpr (ask_orchestrator (others _ _ rfl) (fun _ => ?_) fun _ => trivial)
  refine ensures_bind.mpr (ask_orchestrator ?_ (fun _ => trivial) fun _ => trivial)
  rintro _ ⟨⟩
  refine ⟨first, current, ?_, ?_, (VolumeRecord.rewritten_iff _ _).mpr rfl⟩
  · exact List.mem_cons_of_mem _ (List.mem_cons_of_mem _ told)
  · exact List.mem_cons_of_mem _ List.mem_cons_self

/-- **The new record of a volume.** For every record, handle, zone and policy, the relocated record is the only one to
which the record may be rewritten, and to relocate it again leaves it. Whatever the collaborators answer while a volume
is recorded anew, it is only made as such a record. -/
theorem rewriting_confined (handle : VolumeHandle) (zone policy : String) (v : VolumeRecord) :
    (∀ made, v.Rewritten handle zone policy made ↔ made = v.relocated handle zone policy) ∧
      (v.relocated handle zone policy).relocated handle zone policy = v.relocated handle zone policy ∧
      ∀ name past, Ensures anyAnswers (MakesRewritten name handle zone) (recordAnew name handle zone) (fun _ _ => True)
        (fun _ _ => True) past := by
  refine ⟨fun made => ?_, v.relocated_relocated handle zone policy handle zone policy, fun name past => ?_⟩
  · rw [VolumeRecord.rewritten_iff]
    exact eq_comm
  · exact recordAnew_makes name handle zone past

end Maintenance

end ClusterVolumes
