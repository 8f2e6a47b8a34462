import ClusterVolumes.Failure

/-!
# Failures by their parts

A failure can be described by its kind and its parts, each of which has a name. `Failure.ofParts?`
builds it.
-/

namespace ClusterVolumes.Failure

/-- The failure of a kind with some parts. -/
def ofParts? (kind : String) (text : String → String) (number : String → Option Nat) :
    Option Failure :=
  let message := text "message"
  match kind with
  | "Internal" => some (.internal message)
  | "Configuration" => some (.configuration message)
  | "InvalidArgument" => some (.invalidArgument message)
  | "InvalidVolumeId" => some (.invalidHandle (text "id") (text "reason"))
  | "Unimplemented" => some (.unimplemented message)
  | "FailedPrecondition" => some (.failedPrecondition message)
  | "Conflict" => some (.conflict message)
  | "PermissionDenied" => some (.permissionDenied message)
  | "ResourceNotFound" => some (.resourceNotFound (text "resource") (text "name"))
  | "ResourceExists" => some (.resourceExists (text "resource") (text "name"))
  | "ClustersNotFound" => some .noClusters
  | "RegionNotFound" => some (.regionNotFound (text "region"))
  | "ClusterApi" => some (.clusterApi (text "region") (number "status") (text "reason"))
  | "TaskFailed" => some (.taskFailed (text "upid") (text "task_status"))
  | "Timeout" => some (.timedOut (text "action") (text "resource"))
  | "Mount" => some (.mountFailed (text "path") (text "reason"))
  | "DeviceNotFound" => some (.deviceNotFound (text "device"))
  | "KubeApi" =>
    some (.orchestrator (.api (text "api_status") message (text "reason")
      ((number "api_code").getD 0)))
  | "KubeOther" => some (.orchestrator .lineTooLong)
  | "JsonParse" => some .badJson
  | "YamlParse" => some .badYaml
  | "Io" => some (.system (.errno ((number "errno").getD 0)))
  | _ => none

end ClusterVolumes.Failure
