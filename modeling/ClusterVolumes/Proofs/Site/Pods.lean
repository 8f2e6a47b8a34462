import ClusterVolumes.Proofs.Footprint
import ClusterVolumes.Proofs.Site.Records

/-!
# The pods of an orchestrator

A pod that is there and is not about to go stays until it is deleted by its name: no other request takes it away, not
even the deletion of another pod (`stays_answer`). Requests about nodes and pods leave volumes and claims as they are
(`volumes_of_pods`).
-/

namespace ClusterVolumes.Site.OrchestratorState

open Orchestrator

variable {o : OrchestratorState} {p : Pod}

/-- A pod is there and is not about to go. -/
def Stays (o : OrchestratorState) (p : Pod) : Prop :=
  p ∈ o.pods ∧ o.leaving (podKey p) = none

theorem pods_bind (o : OrchestratorState) (space name : String) :
    (o.bind space name).pods = o.pods ∧ (o.bind space name).leaving = o.leaving := by
  rcases bind_cases o space name with e | ⟨c, v, record, ref, status, -, -, e⟩
  · rw [e]
    exact ⟨rfl, rfl⟩
  · rw [e]
    exact ⟨rfl, rfl⟩

/-- What has the same pods, and the same about to go, keeps a pod. -/
theorem Stays.congr {o' : OrchestratorState} (h : o.Stays p) (same : o'.pods = o.pods ∧ o'.leaving = o.leaving) :
    o'.Stays p := by
  unfold Stays
  rw [same.1, same.2]
  exact h

/-- Listing pods takes away only pods that are about to go. -/
theorem stays_listPods (h : o.Stays p) (space : String) : (o.listPods space).2.Stays p := by
  obtain ⟨mem, still⟩ := h
  constructor
  · refine List.mem_filter.mpr ⟨mem, ?_⟩
    rw [still]
    simp
  · simp only [listPods]
    split
    · rw [still]
      rfl
    · exact still

/-- Deleting a pod leaves the pods of other names. -/
theorem stays_deletePod (h : o.Stays p) {space name : String} (other : podKey p ≠ (space, name)) :
    (o.deletePod space name).Stays p := by
  obtain ⟨mem, still⟩ := h
  unfold deletePod
  split
  · exact ⟨mem, (Keyed.put_of_ne _ _ other).trans still⟩
  · split
    · exact ⟨mem, still⟩
    · rename_i q found
      have left : p ∈ o.pods.filter fun r => podKey r ≠ (space, name) :=
        List.mem_filter.mpr ⟨mem, by simpa using other⟩
      simp only
      split
      · have same : podKey q = (space, name) := by simpa using List.find?_some found
        -- a pod that is made anew has the name of the old one
        have kept : podKey p ≠ podKey (fresh q) := fun e => other (e.trans same)
        exact ⟨List.mem_append_left _ (List.mem_filter.mpr ⟨left, by simpa using kept⟩), still⟩
      · exact ⟨left, still⟩

/-- A pod stays until it is deleted. -/
theorem stays_answer (h : o.Stays p) {r : Request}
    (hr : ∀ space name, r = .deletePod space name → podKey p ≠ (space, name)) : (o.answer r).2.Stays p := by
  cases r with
  | pods space => exact stays_listPods h space
  | deletePod space name => exact stays_deletePod h (hr space name rfl)
  | setUnschedulable name b =>
    simp only [answer]
    split <;> exact h
  | createVolume v =>
    simp only [answer]
    split <;> exact h
  | replaceVolume v =>
    simp only [answer]
    split <;> exact h
  | claim space name =>
    simp only [answer, lookAtClaim]
    split
    · exact h
    · split
      · exact h.congr (pods_bind _ space name)
      · exact h
  | createClaim space c =>
    simp only [answer]
    split
    · exact h
    · simp only [addClaim]
      split
      · exact h.congr (pods_bind _ space c.name)
      · exact h
      · exact h
  | _ => exact h

/-- What is asked about nodes and pods leaves volumes and claims. -/
theorem volumes_of_pods {r : Request} (hr : r.subject = .nodes ∨ r.subject = .pods) (o : OrchestratorState) :
    (o.answer r).2.volumes = o.volumes ∧ (o.answer r).2.claims = o.claims := by
  cases r with
  | node name => exact ⟨rfl, rfl⟩
  | nodeDrivers => exact ⟨rfl, rfl⟩
  | pods space => exact ⟨rfl, rfl⟩
  | setUnschedulable name b =>
    simp only [answer]
    split <;> exact ⟨rfl, rfl⟩
  | deletePod space name =>
    simp only [answer, deletePod]
    split
    · exact ⟨rfl, rfl⟩
    · split
      · exact ⟨rfl, rfl⟩
      · split <;> exact ⟨rfl, rfl⟩
  | _ => rcases hr with h | h <;> cases h

end ClusterVolumes.Site.OrchestratorState
