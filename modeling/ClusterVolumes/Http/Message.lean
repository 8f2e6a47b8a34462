import ClusterVolumes.Failure
import ClusterVolumes.Program

/-!
# Requests and replies

What a client sends to a server and what comes back. `Http.server` is a server as a collaborator of
a program, and a client is an `Exchange` with it.

`target?` says which texts can be sent as the target of a request.
-/

namespace ClusterVolumes.Http

/-- What is done with a resource. -/
inductive Method
  | get
  | post
  | put
  | patch
  | delete
  deriving DecidableEq, Repr

/-- The word for a method on the wire. -/
def Method.word : Method → String
  | get => "GET"
  | post => "POST"
  | put => "PUT"
  | patch => "PATCH"
  | delete => "DELETE"

/-- What is sent to a server. The names of headers are in lower case. -/
structure Request where
  method : Method
  target : String
  headers : List (String × String) := []
  body : String := ""
  deriving DecidableEq, Repr

/-- What a server sends back. -/
structure Reply where
  status : Nat
  body : String
  deriving DecidableEq, Repr

/-- A server, which may give no reply. -/
def server : Interface := ⟨Request, fun _ => Option Reply⟩

/-- A program over a server that may fail. -/
abbrev Exchange (α : Type) : Type := ExceptT Failure (Program server) α

/-- Send a request. -/
def send (r : Request) : Program server (Option Reply) :=
  Program.request (I := server) r

/-! ## Targets -/

/-- The characters that may stand in the path of a target. -/
def isPathChar (c : Char) : Bool :=
  let n := c.toNat
  n = 0x21 || (0x24 ≤ n && n ≤ 0x3B) || n = 0x3D || (0x40 ≤ n && n ≤ 0x5F) ||
    (0x61 ≤ n && n ≤ 0x7A) || n = 0x7C || n = 0x7E || c = '"' || c = '{' || c = '}'

/-- The characters that may stand in the query of a target. -/
def isQueryChar (c : Char) : Bool :=
  let n := c.toNat
  n = 0x21 || (0x24 ≤ n && n ≤ 0x3B) || n = 0x3D || (0x3F ≤ n && n ≤ 0x7E)

/-- The greatest length of a target, in bytes. -/
def maxTarget : Nat := 65534

/-- The target of a request for a path with its query. What stands behind a `#` is not sent. -/
def target? (s : String) : Option String :=
  if s.utf8ByteSize > maxTarget then none
  else
    let sent := s.toList.takeWhile (· ≠ '#')
    let path := sent.takeWhile (· ≠ '?')
    let query := (sent.drop path.length).drop 1
    if path.all isPathChar && query.all isQueryChar then some (String.ofList sent) else none

end ClusterVolumes.Http
