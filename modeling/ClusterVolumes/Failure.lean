import ClusterVolumes.SystemFailure
import ClusterVolumes.Text.Quoted

/-!
# Failures

One type for everything that can go wrong: in a request, in a cluster, on a node or on the way to
them.

- `Failure.message` is the text shown for a failure;
- `Failure.status` is the class reported to the container orchestrator;
- `isNotFound` and `isParameterVerification` are the two questions the services ask about a failure
  of a collaborator.
-/

namespace ClusterVolumes

/-- What the orchestrator's API said about a failed request, or why the request could not be sent or
its answer read. -/
inductive OrchestratorFailure
  | api (status message reason : String) (code : Nat)
  | lineTooLong
  | unreadable
  | unsendable
  | transport
  deriving DecidableEq, Repr

/-- A cause of failure. `clockOverflow` is none that is handed to a caller: the work is broken off at
once, and only what is held meanwhile is given back. -/
inductive Failure
  | internal (message : String)
  | configuration (message : String)
  | invalidArgument (message : String)
  | invalidHandle (text reason : String)
  | unimplemented (what : String)
  | failedPrecondition (message : String)
  | conflict (message : String)
  | permissionDenied (message : String)
  | resourceNotFound (kind name : String)
  | resourceExists (kind name : String)
  | noClusters
  | regionNotFound (region : String)
  | clusterApi (region : String) (status : Option Nat) (reason : String)
  | taskFailed (task status : String)
  | timedOut (action resource : String)
  | mountFailed (path reason : String)
  | deviceNotFound (device : String)
  | orchestrator (cause : OrchestratorFailure)
  | transport
  | badJson
  | badYaml
  | system (cause : SystemFailure)
  | clockOverflow
  deriving DecidableEq, Repr

/-- The class of a failed call that is reported to the caller. -/
inductive StatusClass
  | invalidArgument
  | notFound
  | conflict
  | failedPrecondition
  | permissionDenied
  | unimplemented
  | internal
  | unavailable
  deriving DecidableEq, Repr

namespace StatusClass

/-- The name under which a class is reported. -/
def name : StatusClass → String
  | invalidArgument => "InvalidArgument"
  | notFound => "NotFound"
  | conflict => "Conflict"
  | failedPrecondition => "FailedPrecondition"
  | permissionDenied => "PermissionDenied"
  | unimplemented => "Unimplemented"
  | internal => "Internal"
  | unavailable => "Unavailable"

end StatusClass

namespace OrchestratorFailure

/-- The text shown for a failure of the orchestrator. -/
def message : OrchestratorFailure → String
  | api status message reason code =>
    "ApiError: " ++ message ++ ": " ++ reason ++
      " (ErrorResponse \x7b status: " ++ Text.quoted status ++
      ", message: " ++ Text.quoted message ++ ", reason: " ++ Text.quoted reason ++
      ", code: " ++ toString code ++ " \x7d)"
  | lineTooLong => "Error finding newline character"
  | unreadable => "Error deserializing response"
  | unsendable => "Error building request"
  | transport => "HyperError"

end OrchestratorFailure

namespace Failure

/-- The name of the kind of a failure. -/
def kind : Failure → String
  | internal _ => "Internal"
  | configuration _ => "Configuration"
  | invalidArgument _ => "InvalidArgument"
  | invalidHandle .. => "InvalidVolumeId"
  | unimplemented _ => "Unimplemented"
  | failedPrecondition _ => "FailedPrecondition"
  | conflict _ => "Conflict"
  | permissionDenied _ => "PermissionDenied"
  | resourceNotFound .. => "ResourceNotFound"
  | resourceExists .. => "ResourceExists"
  | noClusters => "ClustersNotFound"
  | regionNotFound _ => "RegionNotFound"
  | clusterApi .. => "ClusterApi"
  | taskFailed .. => "TaskFailed"
  | timedOut .. => "Timeout"
  | mountFailed .. => "Mount"
  | deviceNotFound _ => "DeviceNotFound"
  | orchestrator _ => "Kube"
  | transport => "Http"
  | badJson => "JsonParse"
  | badYaml => "YamlParse"
  | system _ => "Io"
  | clockOverflow => "Panic"

/-- The text shown for a failure. -/
def message : Failure → String
  | internal m => "Internal error: " ++ m
  | configuration m => "Configuration error: " ++ m
  | invalidArgument m => "Invalid argument: " ++ m
  | invalidHandle text reason => "Invalid volume id " ++ Text.quoted text ++ ": " ++ reason
  | unimplemented what => what ++ " is not implemented"
  | failedPrecondition m => "Failed precondition: " ++ m
  | conflict m => "Conflict: " ++ m
  | permissionDenied m => "Permission denied: " ++ m
  | resourceNotFound kind name => "Resource not found: " ++ kind ++ "/" ++ name
  | resourceExists kind name => "Resource already exists: " ++ kind ++ "/" ++ name
  | noClusters => "No clusters configured"
  | regionNotFound region => "Region not found: " ++ region
  | clusterApi region _ reason => "Cluster API error (" ++ region ++ "): " ++ reason
  | taskFailed task status => "Task " ++ task ++ " failed: " ++ status
  | timedOut action resource => "Timeout waiting for " ++ action ++ " on " ++ resource
  | mountFailed path reason => "Mount failed at " ++ path ++ ": " ++ reason
  | deviceNotFound device => "Device not found: " ++ device
  | orchestrator cause => "Kubernetes API error: " ++ cause.message
  | transport => "HTTP transport error"
  | badJson => "JSON parse error"
  | badYaml => "YAML parse error"
  | system cause => "IO error: " ++ cause.message
  | clockOverflow => "overflow when adding duration to instant"

/-- The class under which a failure is reported. A failure to reach a cluster and a wait that ran
out may heal on a later try, so they are `unavailable`. -/
def status : Failure → StatusClass
  | invalidArgument _ | invalidHandle .. => .invalidArgument
  | resourceNotFound .. | regionNotFound _ | noClusters | deviceNotFound _ => .notFound
  | conflict _ | resourceExists .. => .conflict
  | failedPrecondition _ => .failedPrecondition
  | permissionDenied _ => .permissionDenied
  | unimplemented _ => .unimplemented
  | transport | timedOut .. => .unavailable
  | internal _ | configuration _ | clusterApi .. | taskFailed .. | mountFailed .. | orchestrator _
  | badJson | badYaml | system _ | clockOverflow => .internal

/-- Did the caller bring the failure about, by bad arguments or for want of permission? -/
def isUsage (f : Failure) : Bool :=
  f.status = .invalidArgument || f.status = .permissionDenied

/-- Does the failure mean that the addressed object does not exist? -/
def isNotFound : Failure → Bool
  | orchestrator (.api _ _ _ code) => code == 404
  | clusterApi _ status _ => status == some 404
  | f => f.status = .notFound

/-- The words by which a cluster rejects the parameters of a call. -/
def parameterVerification : String := "parameter verification failed"

/-- Did the cluster reject the parameters of a call? It says so of a storage that the addressed node
does not have. Folding ASCII letters is enough: of the other letters only U+212A and U+0130 have an
ASCII letter in their lower case, a `k`, which the words lack, and an `i` with a mark behind it,
which no `i` of the words has. -/
def isParameterVerification : Failure → Bool
  | clusterApi _ _ reason =>
      Text.occursIn parameterVerification.toList (reason.toList.map Char.toLower)
  | _ => false

end Failure

end ClusterVolumes
