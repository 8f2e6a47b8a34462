import ClusterVolumes.Maintenance.Basic
import ClusterVolumes.Text.Cut

/-!
# Grants

What the operator must be allowed to do before any work starts. `Maintenance.checkGrants` asks the
orchestrator for each of the `requiredGrants` and tells all that are missing. Only a user who logged
in may copy disks, which `Maintenance.requirePrivileged` checks.
-/

namespace ClusterVolumes

/-- Something that may be done with a kind of object. -/
structure Grant where
  verb : String
  resource : String
  deriving DecidableEq, Repr

namespace Grant

/-- Are the objects of this kind outside of all namespaces? -/
def isClusterWide (g : Grant) : Bool :=
  g.resource = "persistentvolumes" || g.resource = "nodes"

/-- A grant as messages show it. -/
def text (g : Grant) : String :=
  g.verb ++ " " ++ g.resource

end Grant

namespace Maintenance

/-- What is checked before any work. -/
def requiredGrants : List Grant :=
  [ ⟨"create", "persistentvolumes"⟩, ⟨"delete", "persistentvolumes"⟩,
    ⟨"create", "persistentvolumeclaims"⟩,
    ⟨"delete", "persistentvolumeclaims"⟩, ⟨"delete", "pods"⟩, ⟨"patch", "nodes"⟩ ]

/-- Those of some grants that the orchestrator denies. -/
def missingGrants (space : String) : List Grant → Service (List Grant)
  | [] => pure []
  | g :: rest => do
    let granted ← Service.orchestrator
      (.mayI g.verb g.resource (if g.isClusterWide then none else some space))
    let missing ← missingGrants space rest
    pure (if granted then missing else g :: missing)

/-- Fail if a required grant is missing. -/
def checkGrants (space : String) : Service Unit := do
  let missing ← missingGrants space requiredGrants
  if missing.isEmpty then pure ()
  else throw (.permissionDenied
    ("missing permissions: " ++ Text.joinWith ", " (missing.map Grant.text)))

/-- Fail if the driver did not log in to a region as a user. -/
def requirePrivileged (m : Maintenance) (region : String) : Service Unit := do
  if ← Service.ofExcept (m.fleet.isPrivileged region) then pure ()
  else throw (.permissionDenied
    ("region " ++ region ++ " needs username/password credentials to relocate disks"))

end Maintenance

end ClusterVolumes
