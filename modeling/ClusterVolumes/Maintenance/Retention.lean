import ClusterVolumes.Maintenance.BoundClaim

/-!
# Retention of volumes

What becomes of a volume when its claim is deleted is said by its reclaim policy. While claims are
rebuilt their volumes are on `retained`, so that no disk is deleted with a claim.
-/

namespace ClusterVolumes.Maintenance

open Orchestrator

/-- The policy under which a volume outlives its claim. -/
def retained : String := "Retain"

/-- The policy of a volume that tells none. -/
def impliedPolicy : String := "Delete"

/-- Put a volume under a reclaim policy. -/
def setPolicy (name policy : String) : Service Unit := do
  let volume ← volumeRecord name
  let spec := volume.spec.getD {}
  if spec.reclaimPolicy = some policy then pure ()
  else
    let _ ← Service.orchestrator
      (.replaceVolume { volume with spec := some { spec with reclaimPolicy := some policy } })

/-- Put a volume on `retained`, and tell the policy it was under. -/
def retain (name : String) : Service String := do
  let volume ← volumeRecord name
  let policy := (volume.spec.bind (·.reclaimPolicy)).getD impliedPolicy
  if policy = retained then pure policy
  else
    setPolicy name retained
    pure policy

/-- Take a volume away from its claim, so that another can have it. -/
def unclaim (name : String) : Service Unit := do
  let volume ← volumeRecord name
  let _ ← Service.orchestrator
    (.replaceVolume { volume with spec := volume.spec.map fun s => { s with claimRef := none } })

end ClusterVolumes.Maintenance
