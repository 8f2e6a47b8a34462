import ClusterVolumes.Fleet.Machine
import ClusterVolumes.Fleet.Membership
import ClusterVolumes.Fleet.Task
import ClusterVolumes.Maintenance.Drain
import ClusterVolumes.Maintenance.Grants
import ClusterVolumes.Maintenance.Retention
import ClusterVolumes.Topology

/-!
# Moving a disk to another node

The disk is copied, the volume is recorded anew with the handle of the copy, and only then the
source is deleted. The record of a volume cannot be given another handle in place, so it is deleted
and created again; `relocated` says what the new one holds.
-/

namespace ClusterVolumes

open Orchestrator

namespace Orchestrator

/-- The labels by which a volume is tied to its zone. -/
def zoneLabels : List String := [Label.zone, Label.generalZone, Label.node]

/-- A condition that ties a volume to another zone than before. -/
def NodeExpression.inZone (zone : String) (e : NodeExpression) : NodeExpression :=
  if e.key ∈ zoneLabels then { e with values := some [zone] } else e

/-- Conditions that tie a volume to another zone than before. -/
def NodeTerm.inZone (zone : String) (t : NodeTerm) : NodeTerm :=
  { t with matchExpressions := t.matchExpressions.map fun l => l.map (NodeExpression.inZone zone) }

/-- The nodes from which a volume can be reached in another zone. -/
def NodeAffinity.inZone (zone : String) (a : NodeAffinity) : NodeAffinity :=
  { a with required := a.required.map fun s =>
    { s with terms := s.terms.map (NodeTerm.inZone zone) } }

/-- What a volume is, with another handle, zone and reclaim policy. -/
def VolumeSpec.relocated (handle : VolumeHandle) (zone policy : String) (s : VolumeSpec) :
    VolumeSpec :=
  { s with
    source := s.source.map fun d => { d with volumeHandle := handle.text }
    nodeAffinity := s.nodeAffinity.map (NodeAffinity.inZone zone)
    reclaimPolicy := some policy }

/-- The record of a volume that was moved, ready to be created. -/
def VolumeRecord.relocated (handle : VolumeHandle) (zone policy : String) (v : VolumeRecord) :
    VolumeRecord where
  metadata :=
    { name := v.metadata.name
      labels := v.metadata.labels
      annotations := v.metadata.annotations }
  spec := v.spec.map (VolumeSpec.relocated handle zone policy)
  status := none

end Orchestrator

namespace Maintenance

/-- Is no machine left that has the disk of a volume? -/
def isDetached (m : Maintenance) (handle : VolumeHandle) : Service (Option Unit) := do
  match ← m.fleet.findDiskOwner handle with
  | none => pure (some ())
  | some _ => pure none

/-- Wait until no machine has the disk of a volume. -/
def awaitDetached (m : Maintenance) (handle : VolumeHandle) : Service Unit :=
  Service.pollUntil m.timing.detaching m.timing.pause (m.isDetached handle)
    (.timedOut "disk detach" handle.text)

/-- Record a volume anew under a handle and zone. -/
def recordAnew (name : String) (handle : VolumeHandle) (zone : String) : Service Unit := do
  let policy ← retain name
  let current ← volumeRecord name
  Service.orchestrator (.deleteVolume name)
  let _ ← Service.orchestrator (.createVolume (current.relocated handle zone policy))

/-- Copy the disk of a volume to another node, and see that it is there. -/
def copyDisk (m : Maintenance) (handle : VolumeHandle) (target : String) (timeout : Nat) :
    Service Unit := do
  let task ← Service.cluster handle.region
    (.copyVolume handle.zone handle.storage handle.volid target)
  Fleet.awaitTask handle.region handle.zone task timeout m.timing.pause
  let content ← Service.cluster handle.region (.storageContent target handle.storage)
  if content.any fun v => v.volid = handle.volid then pure ()
  else throw (.internal ("volume " ++ handle.volid ++ " missing from " ++ target ++ " after copy"))

/-- The source of a moved disk could not be deleted. -/
def sourceRemains (handle : VolumeHandle) (target : String) (f : Failure) : Failure :=
  .internal ("volume moved to " ++ target ++ " but its source copy on " ++ handle.zone ++
    " remains: " ++ f.message)

/-- Move the disk of a bound claim to another node. -/
def relocate (m : Maintenance) (bound : BoundClaim) (target : String) (timeout : Nat) :
    Service Unit := do
  let handle := bound.handle
  m.awaitDetached handle
  m.copyDisk handle target timeout
  recordAnew bound.volume.name { handle with zone := target } target
  (Service.cluster handle.region (.deleteDisk handle.zone handle.storage handle.volid)).rewording
    (sourceRemains handle target)

/-- Move the disk of a claim to another node of its region. `timeout` is how long the copy may take,
in milliseconds. -/
def migrate (m : Maintenance) (space claim target : String) (force : Bool) (timeout : Nat) :
    Service Unit := do
  let bound ← m.boundClaim space claim
  let handle := bound.handle
  if handle.isShared then
    throw (.invalidArgument
      ("volume " ++ handle.text ++ " is on shared storage and has no node to migrate from"))
  else if handle.zone = target then pure ()
  else if handle.storage.isEmpty then
    throw (.invalidArgument ("volume " ++ handle.text ++ " does not name its storage"))
  else
    m.requirePrivileged handle.region
    if ← Fleet.isOnline handle.region target then
      m.whileDrained space [claim] force (m.relocate bound target timeout)
    else throw (.resourceNotFound "node" (handle.region ++ "/" ++ target))

end Maintenance

end ClusterVolumes
