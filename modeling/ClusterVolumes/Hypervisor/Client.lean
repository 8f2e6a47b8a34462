import ClusterVolumes.Http.Encoding
import ClusterVolumes.Http.Message
import ClusterVolumes.Http.Status
import ClusterVolumes.Hypervisor.Credentials
import ClusterVolumes.Hypervisor.Request
import ClusterVolumes.Orchestrator.Manifest
import ClusterVolumes.Text.Blank

/-!
# Asking a cluster over HTTP

A cluster answers a request with its result in an envelope. A user who logs in is given a `Ticket`,
which is shown with every later request until the cluster rejects it; then the driver logs in once
more and sends the request again.

- `Client.call` sends a request and reads the result;
- `Client.perform` says which request is sent for what the driver asks;
- `refusalReason` is the reason that a failure gives for a reply that tells none of success.
-/

namespace ClusterVolumes.Hypervisor

open Http

/-! ## Wire forms -/

/-- What a login brings: a cookie for all requests, and a token for those that change something. -/
structure Ticket where
  cookie : String := ""
  token : String := ""
  deriving DecidableEq, Repr

def Ticket.record : Record Ticket where
  start := {}
  fields :=
    [ (Field.of "ticket" .text (·.cookie) fun x s => { s with cookie := x }).must,
      (Field.of "CSRFPreventionToken" .text (·.token) fun x s => { s with token := x }).must ]

/-- An envelope with a value; `missing` is what one without a value stands for, if it may have
none. -/
def envelope {α : Type} (c : Codec α) (missing : Option α) : Codec α where
  encode a := Json.record [("data", c.encode a)]
  decode room j := do
    let data : Field (Option α) :=
      { name := "data", required := missing.isNone
        encode := fun s => s.map c.encode
        decode := fun room j _ => (c.decode room j).map some }
    match ← (Record.codec ⟨missing, [data]⟩).decode room j with
    | some a => .ok a
    | none => .error .mismatch

/-- A setting of a machine as a text. -/
def settingText : Json → String
  | .str (some s) => s
  | j => j.render

/-- The settings of a machine, of which all are taken as texts. -/
def settings : Codec StringMap where
  encode := Codec.stringMap.encode
  decode room j := (Codec.decode (.textMap .any) room j).map (TextMap.map settingText)

/-- How the result of a request is written. -/
def Request.answerCodec : (r : Request) → Codec r.Answer
  | .version => ApiVersion.record.codec
  | .members => .list ClusterMember.record.codec
  | .resources _ => .list ClusterResource.record.codec
  | .storageStatus .. => StorageStatus.record.codec
  | .storageContent .. => .list StorageVolume.record.codec
  | .createDisk .. => .text
  | .deleteDisk .. => ⟨fun _ => .null, fun room j =>
      (Codec.decode (.option .text) room j).map fun _ => ()⟩
  | .vmConfig .. => settings
  | .copyVolume .. => .text
  | .taskStatus .. => TaskStatus.record.codec

/-- The result of a request that need not be in its envelope. -/
def Request.implied : (r : Request) → Option r.Answer
  | .deleteDisk .. => some ()
  | _ => none

/-! ## Requests -/

/-- Mebibytes that hold so many bytes. -/
def mebibytes (bytes : UInt64) : String :=
  toString ((bytes.toNat + 1048575) / 1048576) ++ "M"

/-- The path of a storage on a node. -/
def storagePath (node storage : String) : String :=
  "/nodes/" ++ node ++ "/storage/" ++ storage

/-- What is sent for a request: the method, the path below the cluster's address, and a form. -/
def Request.wire : Request → Method × String × List (String × String)
  | .version => (.get, "/version", [])
  | .members => (.get, "/cluster/status", [])
  | .resources kind => (.get, "/cluster/resources?type=" ++ kind.word, [])
  | .storageStatus node storage => (.get, storagePath node storage ++ "/status", [])
  | .storageContent node storage =>
      (.get, storagePath node storage ++ "/content?content=images", [])
  | .createDisk node storage disk =>
    (.post, storagePath node storage ++ "/content",
      [("vmid", toString disk.vmid.toNat), ("filename", disk.filename),
        ("size", mebibytes disk.sizeBytes)] ++
        (disk.format.map fun format => ("format", format)).toList)
  | .deleteDisk node storage volid =>
      (.delete, storagePath node storage ++ "/content/" ++ pathPart volid, [])
  | .vmConfig node vmid =>
      (.get, "/nodes/" ++ node ++ "/qemu/" ++ toString vmid.toNat ++ "/config", [])
  | .copyVolume node storage volid target =>
    (.post, storagePath node storage ++ "/content/" ++ pathPart volid,
      [("target", volid), ("target_node", target)])
  | .taskStatus node task =>
      (.get, "/nodes/" ++ node ++ "/tasks/" ++ pathPart task ++ "/status", [])

/-! ## Refusals -/

/-- The part of a refusal that tells which parameters were rejected. -/
def rejections : Record (TextMap Json) where
  start := ∅
  fields := [.of "errors" (.textMap .any) id fun x _ => x]

/-- The parameters that a refusal says were rejected, with what it says of each. -/
def rejectedParameters (body : String) : TextMap Json :=
  match rejections.codec.ofText body with
  | .ok errors => errors
  | .error _ => ∅

/-- What a refusal says of a parameter. -/
def rejection : String × Json → String
  | (parameter, .str (some s)) => parameter ++ ": " ++ Text.trim s
  | (parameter, j) => parameter ++ ": " ++ j.render

/-- Why a cluster did not do what it was asked. Rejected parameters are told one by one; any other
reply is shown as it is. -/
def refusalReason (r : Reply) : String :=
  let errors := rejectedParameters r.body
  if r.status = 400 && !errors.isEmpty then
    "Parameter verification failed. (" ++ Text.joinWith ", " (errors.entries.map rejection) ++ ")"
  else statusText r.status ++ ": " ++ Text.trim r.body

/-! ## The client -/

/-- What the driver has to know of a cluster to use it. -/
structure Client where
  region : String
  /-- The address of the cluster, without a slash at its end. -/
  address : String
  credentials : Credentials
  deriving DecidableEq, Repr

/-- Some use of a cluster, with the ticket that is held at a time. -/
abbrev Client.Use (α : Type) : Type := ExceptT Failure (StateT (Option Ticket) (Program server)) α

namespace Client

/-- The ticket that is held. -/
def heldTicket : Use (Option Ticket) :=
  ExceptT.lift get

/-- Hold another ticket, or none. -/
def holdTicket (t : Option Ticket) : Use Unit :=
  ExceptT.lift (set t)

/-- Send a request, which must be fit to be sent. -/
def transmit (c : Client) (method : Method) (path : String)
    (fields headers : List (String × String)) : Use Reply := do
  let some base := pathOfAddress? c.address | throw .transport
  if !(headers.all fun h => isHeaderValue h.2) then throw .transport
  let (typed, body) := if fields.isEmpty then ([], "") else
    ([("content-type", "application/x-www-form-urlencoded")], form fields)
  let request : Http.Request :=
    { method, target := sentTarget (base ++ path), headers := headers ++ typed, body }
  match ← ExceptT.lift (StateT.lift (send request)) with
  | some reply => pure reply
  | none => throw .transport

/-- Read a reply, which must tell of success. -/
def read {α : Type} (c : Client) (codec : Codec α) (r : Reply) : Use α :=
  if isSuccess r.status then
    match codec.ofText r.body with
    | .ok a => pure a
    | .error _ => throw .badJson
  else throw (.clusterApi c.region (some r.status) (refusalReason r))

/-- Log in. -/
def logIn (c : Client) (username password : String) : Use Ticket := do
  let reply ← c.transmit .post "/access/ticket" [("username", username), ("password", password)] []
  c.read (envelope Ticket.record.codec none) reply

/-- The headers that let the driver in. A user who holds no ticket logs in first. -/
def authorize (c : Client) (method : Method) : Use (List (String × String)) :=
  match c.credentials with
  | .token id secret => pure [("authorization", "PVEAPIToken=" ++ id ++ "=" ++ secret)]
  | .password username password => do
    let ticket ← match ← heldTicket with
      | some t => pure t
      | none => do
        let t ← c.logIn username password
        holdTicket (some t)
        pure t
    pure (("cookie", "PVEAuthCookie=" ++ ticket.cookie) ::
      if method = .get then [] else [("csrfpreventiontoken", ticket.token)])

/-- Send a request with what lets the driver in. -/
def sendAuthorized (c : Client) (method : Method) (path : String)
    (fields : List (String × String)) : Use Reply := do
  c.transmit method path fields (← c.authorize method)

/-- Send a request, and once more with another ticket if the one that was shown is rejected. -/
def exchange (c : Client) (method : Method) (path : String) (fields : List (String × String)) :
    Use Reply := do
  let reply ← c.sendAuthorized method path fields
  if reply.status = 401 && c.credentials.isLogin then
    holdTicket none
    c.sendAuthorized method path fields
  else pure reply

/-- How a cluster is asked over HTTP. -/
def perform (c : Client) (r : Request) : Use r.Answer := do
  let (method, path, fields) := r.wire
  c.read (envelope r.answerCodec r.implied) (← c.exchange method path fields)

end Client

end ClusterVolumes.Hypervisor
