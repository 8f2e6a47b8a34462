import ClusterVolumes.Service

/-!
# The log of a site

A call of a cluster, the orchestrator or the mount table leaves a line in the log: the name of the
collaborator with that of the request, and what was asked. `Log.lines` tells equal neighbours once.
-/

namespace ClusterVolumes

/-- The name of a request to a cluster, and what is asked. -/
def Hypervisor.Request.line : Hypervisor.Request → String × List Json
  | .version => ("version", [])
  | .members => ("cluster_status", [])
  | .resources kind => ("cluster_resources", [Json.text kind.word])
  | .storageStatus node storage => ("storage_status", [Json.text node, Json.text storage])
  | .storageContent node storage => ("storage_content", [Json.text node, Json.text storage])
  | .createDisk node storage d =>
    ("create_disk", [Json.text node, Json.text storage, .nat d.vmid.toNat, Json.text d.filename,
      .nat d.sizeBytes.toNat,
      Json.optText d.format])
  | .deleteDisk node storage volid =>
      ("delete_disk", [Json.text node, Json.text storage, Json.text volid])
  | .vmConfig node vmid => ("vm_config", [Json.text node, .nat vmid.toNat])
  | .copyVolume node storage volid target =>
    ("copy_volume", [Json.text node, Json.text storage, Json.text volid, Json.text target])
  | .taskStatus node task => ("task_status", [Json.text node, Json.text task])

/-- The name of a request to the orchestrator, and what is asked. -/
def Orchestrator.Request.line : Orchestrator.Request → String × List Json
  | .node name => ("get_node", [Json.text name])
  | .setUnschedulable name unschedulable =>
      ("set_unschedulable", [Json.text name, .bool unschedulable])
  | .nodeDrivers => ("list_csi_nodes", [])
  | .pods space => ("list_pods", [Json.text space])
  | .deletePod space name => ("delete_pod", [Json.text space, Json.text name])
  | .volume name => ("get_pv", [Json.text name])
  | .createVolume v => ("create_pv", [VolumeRecord.codec.encode v])
  | .replaceVolume v => ("replace_pv", [VolumeRecord.codec.encode v])
  | .deleteVolume name => ("delete_pv", [Json.text name])
  | .claim space name => ("get_pvc", [Json.text space, Json.text name])
  | .createClaim space c => ("create_pvc", [Json.text space, Claim.codec.encode c])
  | .deleteClaim space name => ("delete_pvc", [Json.text space, Json.text name])
  | .mayI verb resource space => ("can_i", [Json.text verb, Json.text resource, Json.optText space])

/-- The name of a request to the mount table, and what is asked. -/
def Mount.Request.line : Mount.Request → String × List Json
  | .isMountPoint path => ("is_mount_point", [Json.text path])
  | .formatAndMount source target fsType options mkfs =>
    ("format_and_mount",
      [Json.text source, Json.text target, Json.text fsType, Json.texts options, Json.texts mkfs])
  | .mount source target fsType options =>
    ("mount", [Json.text source, Json.text target, Json.optText fsType, Json.texts options])
  | .unmount target => ("unmount", [Json.text target])
  | .deviceAt target => ("device_for_mount", [Json.text target])
  | .grow device target => ("resize_filesystem", [Json.text device, Json.text target])
  | .usage path => ("filesystem_stats", [Json.text path])
  | .deviceSize device => ("block_device_size", [Json.text device])

/-- The line that a call leaves, none if it leaves no line. -/
def Call.line? : Call → Option (String × List Json)
  | .cluster region r => some (region ++ "." ++ r.line.1, r.line.2)
  | .orchestrator r => some ("kube." ++ r.line.1, r.line.2)
  | .mounts r => some ("mount." ++ r.line.1, r.line.2)
  | _ => none

namespace Site.Log

/-- Neighbours of a list that agree in a key taken together, with how many they are. -/
def runs {α κ : Type} [DecidableEq κ] (key : α → κ) : List α → List (α × Nat)
  | [] => []
  | a :: rest =>
    match runs key rest with
    | (b, n) :: more => if key a = key b then (a, n + 1) :: more else (a, 1) :: (b, n) :: more
    | [] => [(a, 1)]

/-- A line with how often it stands in the log. -/
def counted (l : List Json) (n : Nat) : Json :=
  .arr (if n = 1 then l else l ++ [Json.record [("times", .nat n)]])

/-- The lines that some calls leave. -/
def lines (l : List Call) : Json :=
  let all := l.filterMap fun c => c.line?.map fun (name, args) => Json.text name :: args
  .arr ((runs (fun line => (Json.arr line).render) all).map fun (line, n) => counted line n)

end Site.Log

end ClusterVolumes
