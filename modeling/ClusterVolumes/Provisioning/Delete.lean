import ClusterVolumes.Csi.Message
import ClusterVolumes.Fleet
import ClusterVolumes.Fleet.Membership

/-!
# Deleting volumes

The disk of a volume is deleted where it is listed, and a volume whose disk is listed nowhere is
gone already. A handle in the older form does not tell the storage, so its disk is looked for on all
storages of its node.
-/

namespace ClusterVolumes.Provisioning

open Csi Hypervisor

/-- A failure of a cluster while a volume is deleted. -/
def whileDeleting (id : String) (f : Failure) : Failure :=
  .internal ("delete " ++ id ++ ": " ++ f.message)

/-- Does the failure say that the node has no such storage? -/
def meansAbsent (f : Failure) : Bool :=
  f.isNotFound || f.isParameterVerification

/-- Delete a volume's disk if it is on the storage that the handle names, and say whether it was. -/
def deleteFrom (id node : String) (volume : VolumeHandle) : Service Bool := do
  match ← (Service.cluster volume.region (.storageContent node volume.storage)).attempt with
  | .error f => if meansAbsent f then pure false else throw (whileDeleting id f)
  | .ok content =>
    if content.any fun v => v.volid = volume.volid then
      (Service.cluster volume.region (.deleteDisk node volume.storage volume.volid)).rewording
        (whileDeleting id)
      pure true
    else pure false

/-- Delete a volume's disk from the first of some storages that has it. The lock on each is the
handle under which the disk would be created there. -/
def deleteFromFirst (id node : String) (volume : VolumeHandle) : (storages : List String) →
    Service Unit
  | [] => pure ()
  | storage :: rest => do
    let candidate := { volume with storage := storage }
    if ← Service.holding candidate.text (deleteFrom id node candidate) then pure ()
    else deleteFromFirst id node volume rest

/-- The storages on which the disk of a volume may be. -/
def storagesOf (id node : String) (volume : VolumeHandle) : Service (List String) :=
  if volume.storage.isEmpty then do
    let resources ← (Service.cluster volume.region (.resources .storage)).rewording
      (whileDeleting id)
    pure ((resources.filter fun r => r.node = node).filterMap (·.storage))
  else pure [volume.storage]

/-- Delete a volume. -/
def deleteVolume {κ : Type} (fleet : Fleet κ) (request : DeleteVolumeRequest) : Service Unit := do
  let id := request.volumeId
  if id.isEmpty then throw (.invalidArgument "volume id is required")
  let volume ← Service.ofExcept (VolumeHandle.parseLegacy id)
  let _ ← Service.ofExcept (fleet.get volume.region)
  let node ←
    if volume.zone.isEmpty then (Fleet.firstOnlineNode volume.region).rewording (whileDeleting id)
    else pure volume.zone
  deleteFromFirst id node volume (← storagesOf id node volume)

end ClusterVolumes.Provisioning
