import ClusterVolumes.Csi.Identity
import ClusterVolumes.Http.MediaType
import ClusterVolumes.Metrics
import ClusterVolumes.NodeVolume.Info
import ClusterVolumes.NodeVolume.Publish
import ClusterVolumes.NodeVolume.Usage
import ClusterVolumes.Provisioning.Attach
import ClusterVolumes.Provisioning.Capacity
import ClusterVolumes.Provisioning.Create
import ClusterVolumes.Provisioning.Delete

/-!
# The gateway

The calls of the storage interface arrive as `POST /csi.v1.<Role>/<Method>` with a JSON body.
`Gateway.answer` finds the call that a request names, reads the body and runs the service; a request
that names no call or brings no readable body is refused, and refusals are not counted.
`Gateway.observe` counts all others.

A driver that runs beside the clusters serves the calls of the controller, one that runs on a node
those of the node.
-/

namespace ClusterVolumes.Gateway

open Csi

/-- The services behind the gateway. -/
structure Setup (κ : Type) where
  driver : DriverInfo := {}
  fleet : Option (Fleet κ) := none
  node : Option (String × Device.Finder) := none

/-- A request as it arrives. -/
structure Request where
  method : String
  path : String
  contentType : Option String
  body : String
  deriving DecidableEq, Repr

/-- What becomes of a request: it is refused with a status, or a call is carried out. -/
inductive Reply
  | refused (status : Nat)
  | carriedOut (method : String) (outcome : Except Failure Json)

/-- A call: whether it takes a body, and what it does. -/
structure Route (κ : Type) where
  role : String
  method : String
  takesBody : Bool
  run : Setup κ → String → Decoded (Service Json)

namespace Route

variable {κ α β : Type}

/-- A call without a body. -/
def bare (role method : String) (c : Codec β) (run : Setup κ → Service β) : Route κ :=
  ⟨role, method, false, fun setup _ => .ok (c.encode <$> run setup)⟩

/-- A call with a body. -/
def taking (role method : String) (read : Codec α) (write : Codec β)
    (run : Setup κ → α → Service β) : Route κ :=
  ⟨role, method, true, fun setup body => do
    let request ← read.ofText body
    pure (write.encode <$> run setup request)⟩

/-- The path of a call. -/
def path (r : Route κ) : String :=
  "/csi.v1." ++ r.role ++ "/" ++ r.method

end Route

/-! ## The calls -/

section

variable {κ : Type}

/-- The fleet, if the driver runs beside the clusters. -/
def Setup.controller (setup : Setup κ) : Service (Fleet κ) :=
  Service.require setup.fleet (.unimplemented "Controller service")

/-- The node and how it finds devices, if the driver runs on a node. -/
def Setup.nodeService (setup : Setup κ) : Service (String × Device.Finder) :=
  Service.require setup.node (.unimplemented "Node service")

/-- A call that answers nothing. -/
def silent (s : Service Unit) : Service NoContent := do
  s
  pure {}

def identityRoutes : List (Route κ) :=
  [ .bare "Identity" "GetPluginInfo" GetPluginInfoResponse.record.codec fun setup =>
      pure setup.driver.pluginInfo,
    .bare "Identity" "GetPluginCapabilities" GetPluginCapabilitiesResponse.record.codec fun setup =>
      pure { capabilities := pluginCapabilities setup.fleet.isSome },
    .bare "Identity" "Probe" ProbeResponse.record.codec fun _ => pure { ready := true } ]

def controllerRoutes : List (Route κ) :=
  [ .taking "Controller" "CreateVolume" CreateVolumeRequest.record.codec
      CreateVolumeResponse.record.codec
      fun setup request => do Provisioning.createVolume (← setup.controller) request,
    .taking "Controller" "DeleteVolume" DeleteVolumeRequest.record.codec NoContent.record.codec
      fun setup request => do silent (Provisioning.deleteVolume (← setup.controller) request),
    .taking "Controller" "ControllerPublishVolume" ControllerPublishVolumeRequest.record.codec
      ControllerPublishVolumeResponse.record.codec
      fun setup request => do Provisioning.attachVolume (← setup.controller) request,
    .taking "Controller" "ControllerUnpublishVolume" ControllerUnpublishVolumeRequest.record.codec
      NoContent.record.codec
      fun setup request => do
        let _ ← setup.controller
        silent (Provisioning.detachVolume request),
    .taking "Controller" "GetCapacity" GetCapacityRequest.record.codec
      GetCapacityResponse.record.codec
      fun setup request => do Provisioning.getCapacity (← setup.controller) request,
    .bare "Controller" "ControllerGetCapabilities" ControllerGetCapabilitiesResponse.record.codec
      fun setup => do
        let _ ← setup.controller
        pure { capabilities := Provisioning.capabilities } ]

/-- Calls of the controller that the driver does not offer. -/
def missingCalls : List String :=
  [ "ValidateVolumeCapabilities", "ListVolumes", "CreateSnapshot", "DeleteSnapshot",
    "ListSnapshots", "ControllerExpandVolume", "ControllerGetVolume" ]

def missingRoutes : List (Route κ) :=
  missingCalls.map fun method =>
    .bare "Controller" method NoContent.record.codec fun _ => throw (.unimplemented method)

def nodeRoutes : List (Route κ) :=
  [ .taking "Node" "NodeStageVolume" NodeStageVolumeRequest.record.codec NoContent.record.codec
      fun setup request => do silent (NodeVolume.stage (← setup.nodeService).2 request),
    .taking "Node" "NodeUnstageVolume" NodeUnstageVolumeRequest.record.codec NoContent.record.codec
      fun setup request => do
        let _ ← setup.nodeService
        silent (NodeVolume.unstage request),
    .taking "Node" "NodePublishVolume" NodePublishVolumeRequest.record.codec NoContent.record.codec
      fun setup request => do
        let _ ← setup.nodeService
        silent (NodeVolume.publish request),
    .taking "Node" "NodeUnpublishVolume" NodeUnpublishVolumeRequest.record.codec
      NoContent.record.codec
      fun setup request => do
        let _ ← setup.nodeService
        silent (NodeVolume.unpublish request),
    .taking "Node" "NodeGetVolumeStats" NodeGetVolumeStatsRequest.record.codec
      NodeGetVolumeStatsResponse.record.codec
      fun setup request => do
        let _ ← setup.nodeService
        NodeVolume.stats request,
    .taking "Node" "NodeExpandVolume" NodeExpandVolumeRequest.record.codec
      NodeExpandVolumeResponse.record.codec
      fun setup request => do NodeVolume.expand (← setup.nodeService).2 request,
    .bare "Node" "NodeGetInfo" NodeGetInfoResponse.record.codec
      fun setup => do NodeVolume.info (← setup.nodeService).1,
    .bare "Node" "NodeGetCapabilities" NodeGetCapabilitiesResponse.record.codec
      fun setup => do
        let _ ← setup.nodeService
        pure { capabilities := NodeVolume.capabilities } ]

/-- All calls. -/
def routes : List (Route κ) :=
  identityRoutes ++ controllerRoutes ++ missingRoutes ++ nodeRoutes

/-! ## Answering -/

/-- The status of a refusal of a body. -/
def statusOf : DecodeFault → Nat
  | .notJson => 400
  | .mismatch => 422

/-- Answer a request for a call. -/
def answerBy (setup : Setup κ) (route : Route κ) (request : Request) :
    Program collaborators Reply :=
  if request.method ≠ "POST" then pure (.refused 405)
  else if route.takesBody && !(request.contentType.map MediaType.isJson).getD false then
    pure (.refused 415)
  else match route.run setup request.body with
    | .error fault => pure (.refused (statusOf fault))
    | .ok service => Reply.carriedOut route.method <$> service.run

/-- Answer a request. -/
def answer (setup : Setup κ) (request : Request) : Program collaborators Reply :=
  match routes.find? fun r => r.path = request.path with
  | none => pure (.refused 404)
  | some route => answerBy setup route request

end

/-! ## Replies -/

/-- The status of a reply to a failed call. -/
def statusOfClass : StatusClass → Nat
  | .invalidArgument => 400
  | .notFound => 404
  | .conflict => 409
  | .failedPrecondition => 412
  | .permissionDenied => 403
  | .unimplemented => 501
  | .internal => 500
  | .unavailable => 503

namespace Reply

/-- The status of a reply. -/
def status : Reply → Nat
  | refused status => status
  | carriedOut _ (.ok _) => 200
  | carriedOut _ (.error f) => statusOfClass f.status

/-- The body of a reply to a call. -/
def body? : Reply → Option Json
  | refused _ => none
  | carriedOut _ (.ok j) => some j
  | carriedOut _ (.error f) =>
    some (Json.record [("code", Json.text f.status.name), ("message", Json.text f.message)])

end Reply

/-- The word under which the outcome of a call is counted. -/
def outcomeName : Except Failure Json → String
  | .ok _ => "OK"
  | .error f => f.status.name

/-- Count a call that was carried out. -/
def observe (m : Metrics) : Reply → Metrics
  | .refused _ => m
  | .carriedOut method outcome => m.observe method (outcomeName outcome)

/-! ## Health -/

/-- The answer to a question for the health of the driver: the text, if there is one at the path. -/
def health (m : Metrics) (path : String) : Option String :=
  if path = "/healthz" ∨ path = "/readyz" then some "ok"
  else if path = "/metrics" then some m.render
  else none

end ClusterVolumes.Gateway
