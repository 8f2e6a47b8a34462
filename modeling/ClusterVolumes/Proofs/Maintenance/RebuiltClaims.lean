import ClusterVolumes.Proofs.Site.Records
import ClusterVolumes.Maintenance.Rebind
import ClusterVolumes.Text.Cut

/-!
# Rebuilt claims

A claim that is rebuilt is another claim, under a name and for a volume. `Claim.RebuiltAs` says of each part of it where
it comes from: labels and specification are those of the old claim but for the volume and for the storage, annotations
are those that do not belong to the orchestrator's binding (`Metadata.get?_ownAnnotations`). So is every claim that is
made in this way (`Claim.rebuiltAs_rebuilt`), and it stays so when it gets its volume (`Claim.RebuiltAs.bound_made`).
-/

namespace ClusterVolumes.Orchestrator

/-- How much of a resource a claim asks for. -/
def Claim.request? (c : Claim) (resource : String) : Option String :=
  ((c.spec.bind (·.resources)).bind (·.requests)).bind fun requests => requests.get? resource

/-- The annotation of a claim under a key. -/
def Claim.annotation? (c : Claim) (key : String) : Option String :=
  c.metadata.annotations.bind fun annotations => annotations.get? key

/-- A claim is modelled on another one, and asks for a volume by name. It asks for as much storage as the volume has,
if that is recorded, and has no annotation of the orchestrator's binding. -/
structure Claim.RebuiltAs (c made : Claim) (name : String) (v : VolumeRecord) : Prop where
  name : made.metadata.name = some name
  labels : made.metadata.labels = c.metadata.labels
  annotations : ∀ key, made.annotation? key =
    if bindingAnnotation.toList <+: key.toList then none else c.annotation? key
  volumeName : made.spec.bind (·.volumeName) = some v.name
  requests : ∀ resource, made.request? resource =
    if resource = "storage" then v.capacity?.or (c.request? resource) else c.request? resource
  limits : (made.spec.bind (·.resources)).bind (·.limits) = (c.spec.bind (·.resources)).bind (·.limits)
  unsized : v.capacity? = none → made.spec.bind (·.resources) = c.spec.bind (·.resources)
  rest : { made.spec.getD {} with volumeName := none, resources := none } =
    { c.spec.getD {} with volumeName := none, resources := none }

/-- A claim that is made anew takes over what annotations do not belong to the binding. -/
theorem Metadata.get?_ownAnnotations (m : Metadata) (key : String) :
    (m.ownAnnotations.bind fun annotations => annotations.get? key) =
      if bindingAnnotation.toList <+: key.toList then none
      else m.annotations.bind fun annotations => annotations.get? key := by
  let kept := (m.annotations.getD ∅).filterKeys fun k => (Text.dropStart? bindingAnnotation.toList k.toList).isNone
  have all : (m.annotations.getD ∅).get? key = m.annotations.bind fun annotations => annotations.get? key := by
    cases m.annotations <;> rfl
  have told : kept.get? key = if bindingAnnotation.toList <+: key.toList then none
      else m.annotations.bind fun annotations => annotations.get? key := by
    rw [TextMap.get?_filterKeys, all]
    simp only [Text.isNone_dropStart?_iff, ite_not]
  rw [← told]
  have own : m.ownAnnotations = if kept.isEmpty then none else some kept := rfl
  rw [own]
  split
  · rename_i empty
    have entries : kept.entries = [] := List.isEmpty_iff.mp empty
    rw [TextMap.get?, entries]
    rfl
  · rfl

/-- The specification of a claim that is made anew. -/
theorem Claim.spec_rebuilt (c : Claim) (name : String) (v : VolumeRecord) :
    (c.rebuilt name v).spec = some (match v.capacity? with
      | some amount => { c.spec.getD {} with volumeName := some v.name }.requesting amount
      | none => { c.spec.getD {} with volumeName := some v.name }) := rfl

/-- A claim asks for the storage that is put into its request, and for the rest as before. -/
theorem Claim.request?_requesting (c : Claim) (volume : Option String) (amount resource : String) :
    ((({ c.spec.getD {} with volumeName := volume }.requesting amount).resources.bind (·.requests)).bind fun requests =>
      requests.get? resource) = if resource = "storage" then some amount else c.request? resource := by
  have others : ((((c.spec.getD {}).resources.getD {}).requests.getD ∅).get? resource) = c.request? resource := by
    unfold Claim.request?
    rcases c.spec with _ | spec
    · rfl
    · rcases h : spec.resources with _ | resources
      · simp [h]
        rfl
      · cases hr : resources.requests <;> simp [h, hr]
        rfl
  simp only [ClaimSpec.requesting, Option.bind_some, TextMap.get?_insert, others]

/-- A claim is modelled as a claim is rebuilt. -/
theorem Claim.rebuiltAs_rebuilt (c : Claim) (name : String) (v : VolumeRecord) :
    c.RebuiltAs (c.rebuilt name v) name v := by
  have spec := c.spec_rebuilt name v
  constructor
  · rfl
  · rfl
  · exact c.metadata.get?_ownAnnotations
  · rw [spec]
    cases v.capacity? <;> rfl
  · intro resource
    unfold Claim.request?
    rw [spec]
    cases v.capacity? with
    | none => cases c.spec <;> simp
    | some amount => exact c.request?_requesting (some v.name) amount resource
  · rw [spec]
    cases v.capacity? with
    | none => cases c.spec <;> rfl
    | some amount =>
      simp only [ClaimSpec.requesting, Option.bind_some]
      rcases c.spec with _ | spec
      · rfl
      · cases h : spec.resources <;> simp [h]
  · intro unsized
    rw [spec, unsized]
    cases c.spec <;> rfl
  · rw [spec]
    cases v.capacity? <;> rfl

/-- A claim is modelled on another one whatever namespace it is made in, and stays so when it is bound. -/
theorem Claim.RebuiltAs.bound_made {c made : Claim} {name : String} {v : VolumeRecord} (h : c.RebuiltAs made name v)
    (space uid : String) : c.RebuiltAs (made.made space uid).bound name v :=
  ⟨h.name, h.labels, h.annotations, h.volumeName, h.requests, h.limits, h.unsized, h.rest⟩

theorem Claim.isBound_bound (c : Claim) : c.bound.isBound = true := by
  simp [isBound, bound]

/-- A claim that is bound asks for the volume that it is modelled for. -/
theorem Claim.RebuiltAs.volumeName? {c made : Claim} {name : String} {v : VolumeRecord} (h : c.RebuiltAs made name v)
    (named : v.name ≠ "") : made.volumeName? = some v.name := by
  unfold Claim.volumeName?
  rw [h.volumeName]
  simp [Option.filter, named]

end ClusterVolumes.Orchestrator
