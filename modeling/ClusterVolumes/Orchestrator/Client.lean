import ClusterVolumes.Http.Message
import ClusterVolumes.Http.Status
import ClusterVolumes.Orchestrator.Request

/-!
# Asking the orchestrator over HTTP

The orchestrator keeps objects in collections, and a request about one goes to its path below its
collection. `Orchestrator.perform` says which requests are sent for what the driver asks, and what
is made of the replies.

Deleting a volume or a claim also takes away what would keep it from going. Deleting what is not
there is no failure.
-/

namespace ClusterVolumes.Orchestrator

open Http

/-! ## Collections -/

/-- Where the objects of a kind are kept, and how they are written. -/
structure Collection (α : Type) where
  root : String
  plural : String
  codec : Codec α
  space : Option String := none

namespace Collection

variable {α : Type}

def nodes : Collection Node := { root := "/api/v1/", plural := "nodes", codec := Node.codec }
def drivers : Collection NodeDrivers :=
  { root := "/apis/storage.k8s.io/v1/", plural := "csinodes", codec := NodeDrivers.codec }
def volumes : Collection VolumeRecord :=
  { root := "/api/v1/", plural := "persistentvolumes", codec := VolumeRecord.codec }
def pods (space : String) : Collection Pod :=
  { root := "/api/v1/", plural := "pods", codec := Pod.codec, space := some space }
def claims (space : String) : Collection Claim :=
  { root := "/api/v1/", plural := "persistentvolumeclaims", codec := Claim.codec,
    space := some space }

/-- The path of a collection. -/
def path (c : Collection α) : String :=
  match c.space with
  | some space => c.root ++ "namespaces/" ++ space ++ "/" ++ c.plural
  | none => c.root ++ c.plural

end Collection

/-! ## Reviews of access -/

/-- What is asked about: may someone do this? -/
structure AccessQuestion where
  verb : Option String := none
  resource : Option String := none
  space : Option String := none
  others : Others := []
  deriving Repr, Inhabited

def AccessQuestion.record : Record AccessQuestion where
  start := {}
  fields :=
    .optional "namespace" .text (·.space) (fun x s => { s with space := x }) ::
    .optional "resource" .text (·.resource) (fun x s => { s with resource := x }) ::
    .optional "verb" .text (·.verb) (fun x s => { s with verb := x }) ::
    Field.carried ["group", "name", "subresource", "version"] (·.others) fun x s =>
      { s with others := x }

/-- The part of a review that says what is asked about. -/
structure AccessReviewSpec where
  question : Option AccessQuestion := none
  others : Others := []
  deriving Repr, Inhabited

def AccessReviewSpec.record : Record AccessReviewSpec where
  start := {}
  fields :=
    .optional "resourceAttributes" AccessQuestion.record.manifest (·.question)
      (fun x s => { s with question := x }) ::
    Field.carried ["nonResourceAttributes"] (·.others) fun x s => { s with others := x }

/-- What a review comes to. -/
structure AccessVerdict where
  allowed : Bool := false
  others : Others := []
  deriving Repr, Inhabited

def AccessVerdict.record : Record AccessVerdict where
  start := {}
  fields :=
    .defaulted "allowed" .bool false (·.allowed) (fun x s => { s with allowed := x }) ::
    Field.carried ["denied", "evaluationError", "reason"] (·.others) fun x s =>
      { s with others := x }

/-- A review of what the driver may do. -/
structure AccessReview where
  metadata : Metadata := {}
  spec : AccessReviewSpec := {}
  verdict : Option AccessVerdict := none
  deriving Repr, Inhabited

def AccessReview.record : Record AccessReview where
  start := {}
  fields :=
    [ metadataField (·.metadata) (fun x s => { s with metadata := x }),
      .defaulted "spec" AccessReviewSpec.record.manifest {} (·.spec)
        (fun x s => { s with spec := x }),
      .optional "status" AccessVerdict.record.manifest (·.verdict) fun x s =>
        { s with verdict := x } ]

def AccessReview.codec : Codec AccessReview :=
  AccessReview.record.topLevel "authorization.k8s.io/v1" "SelfSubjectAccessReview"

def Collection.reviews : Collection AccessReview :=
  { root := "/apis/authorization.k8s.io/v1/", plural := "selfsubjectaccessreviews",
    codec := AccessReview.codec }

/-! ## Refusals and receipts -/

/-- What the orchestrator says of a request that it refuses. -/
structure Refusal where
  status : String := ""
  message : String := ""
  reason : String := ""
  code : Nat := 0
  deriving DecidableEq, Repr

def Refusal.record : Record Refusal where
  start := {}
  fields :=
    [ (Field.of "status" .text (·.status) fun x s => { s with status := x }).must,
      .of "message" .text (·.message) (fun x s => { s with message := x }),
      .of "reason" .text (·.reason) (fun x s => { s with reason := x }),
      (Field.of "code" (.natUpTo (UInt16.size - 1)) (·.code) fun x s => { s with code := x }).must ]

/-- The failure that a reply tells. A body that cannot be read is shown as it is. -/
def refusal (r : Reply) : Failure :=
  .orchestrator <|
    match Refusal.record.codec.ofText r.body with
    | .ok x => .api x.status x.message x.reason x.code
    | .error _ => .api (statusText r.status)
        (Text.quoted r.body) "Failed to parse error data" r.status

/-- How a deletion went. -/
inductive Outcome
  | success
  | failure
  deriving DecidableEq, Repr

def Outcome.codec : Codec Outcome :=
  .constant [(.success, "Success"), (.failure, "Failure")]

/-- What the orchestrator may send instead of a deleted object. -/
structure Receipt where
  status : Option Outcome := none
  code : Nat := 0
  message : String := ""
  reason : String := ""
  deriving DecidableEq, Repr

def Receipt.record : Record Receipt where
  start := {}
  fields :=
    [ .of "status" Outcome.codec.option (·.status) (fun x s => { s with status := x }),
      .of "code" (.natUpTo (UInt16.size - 1)) (·.code) (fun x s => { s with code := x }),
      .of "message" .text (·.message) (fun x s => { s with message := x }),
      .of "reason" .text (·.reason) fun x s => { s with reason := x } ]

/-- Is a value a receipt? -/
def isReceipt (j : Json) : Bool :=
  match j.member? "kind" with
  | some (.str (some kind)) => kind = "Status"
  | _ => false

/-! ## Exchanges -/

/-- A request that cannot be put into words. -/
def unsendable : Failure := .orchestrator .unsendable

/-- A reply that is not what was asked for. -/
def unreadable : Failure := .orchestrator .unreadable

/-- Send a request, with a body of a media type or without a body, and take the body of the
reply. -/
def exchange (method : Method) (path : String) (body : Option (String × Json)) :
    Exchange String := do
  let some target := target? path | throw unsendable
  let headers := (body.map fun b => ("content-type", b.1)).toList
  match ← ExceptT.lift
    (send { method, target, headers, body := (body.map (·.2.render)).getD "" }) with
  | none => throw (.orchestrator .transport)
  | some reply => if isRefusal reply.status then throw (refusal reply) else pure reply.body

/-- Read the body of a reply. -/
def readAs {α : Type} (c : Codec α) (body : String) : Exchange α :=
  match c.ofText body with
  | .ok a => pure a
  | .error _ => throw unreadable

section Objects

variable {α : Type}

/-- The path of an object, which must have a name. -/
def objectPath (c : Collection α) (name : String) : Exchange String :=
  if name.isEmpty then throw unsendable else pure (c.path ++ "/" ++ name)

/-- The media type of objects. -/
def plainJson : String := "application/json"

/-- The media type of changes: the members that are to be other than they are, null for those that
are to go. -/
def mergePatch : String := "application/merge-patch+json"

/-- The object of a name. -/
def fetch (c : Collection α) (name : String) : Exchange α := do
  readAs c.codec (← exchange .get (← objectPath c name) none)

/-- The object of a name, none if the orchestrator gives as its reason that there is none. -/
def find (c : Collection α) (name : String) : Exchange (Option α) :=
  ExceptT.mk do
    match ← (fetch c name).run with
    | .ok a => pure (.ok (some a))
    | .error (.orchestrator (.api status message reason code)) =>
      pure (if reason = "NotFound" then .ok none
        else .error (.orchestrator (.api status message reason code)))
    | .error f => pure (.error f)

/-- A listing of objects; what it says of itself does not count. -/
def listing (c : Codec α) : Record (List α) where
  start := []
  fields :=
    [ .of "metadata" (Record.manifest ⟨(), []⟩) (fun _ => ()) (fun _ s => s),
      (Field.of "items" (c.list.orDefault []) id fun x _ => x).must ]

/-- Read a listing, which is always an object. -/
def decodeListing (c : Codec α) (room : Nat) : Json → Decoded (List α)
  | .obj members => (listing c).codec.decode room (.obj members)
  | j => .error (Codec.faultOf j)

/-- All objects of a collection. -/
def list (c : Collection α) : Exchange (List α) := do
  let body ← exchange .get (c.path ++ "?") none
  readAs ⟨fun _ => .null, decodeListing c.codec⟩ body

/-- Keep a new object. -/
def create (c : Collection α) (a : α) : Exchange α := do
  readAs c.codec (← exchange .post (c.path ++ "?") (some (plainJson, c.codec.encode a)))

/-- Keep an object in place of that of the same name. -/
def replace (c : Collection α) (name : String) (a : α) : Exchange α := do
  readAs c.codec (← exchange .put ((← objectPath c name) ++ "?")
    (some (plainJson, c.codec.encode a)))

/-- Change an object. -/
def change (c : Collection α) (name : String) (difference : Json) : Exchange Unit := do
  let _ ← readAs c.codec
    (← exchange .patch ((← objectPath c name) ++ "?") (some (mergePatch, difference)))

/-- Delete an object, for which the object or a receipt comes back. -/
def delete (c : Collection α) (name : String) : Exchange Unit := do
  let body ← exchange .delete ((← objectPath c name) ++ "?") (some (plainJson, Json.record []))
  if isReceipt (← readAs .any body) then
    let _ ← readAs Receipt.record.codec body
  else
    let _ ← readAs c.codec body

/-- Take it as done if the object is not there. -/
def unlessAbsent (e : Exchange Unit) : Exchange Unit :=
  ExceptT.mk do
    match ← e.run with
    | .error (.orchestrator (.api status message reason code)) =>
      pure (if code = 404 then .ok () else .error (.orchestrator (.api status message reason code)))
    | outcome => pure outcome

/-- Delete an object and take away what keeps it from going. -/
def deleteForGood (c : Collection α) (name : String) : Exchange Unit := do
  unlessAbsent (delete c name)
  unlessAbsent (change c name (Json.record [("metadata", Json.record [("finalizers", .null)])]))

end Objects

/-- How the orchestrator is asked over HTTP. -/
def perform : (r : Request) → Exchange r.Answer
  | .node name => find .nodes name
  | .setUnschedulable name b =>
    change .nodes name (Json.record [("spec", Json.record [("unschedulable", .bool b)])])
  | .nodeDrivers => list .drivers
  | .pods space => list (.pods space)
  | .deletePod space name => unlessAbsent (delete (.pods space) name)
  | .volume name => find .volumes name
  | .createVolume v => create .volumes v
  | .replaceVolume v =>
    match v.metadata.name with
    | none => throw (.invalidArgument "PersistentVolume has no name")
    | some name => replace .volumes name v
  | .deleteVolume name => deleteForGood .volumes name
  | .claim space name => find (.claims space) name
  | .createClaim space c => create (.claims space) c
  | .deleteClaim space name => deleteForGood (.claims space) name
  | .mayI verb resource space => do
    let asked : AccessQuestion := { verb := some verb, resource := some resource, space }
    let review ← create .reviews { spec := { question := some asked } }
    pure ((review.verdict.map (·.allowed)).getD false)

end ClusterVolumes.Orchestrator
