import ClusterVolumes.Endpoint
import ClusterVolumes.FileTree
import ClusterVolumes.Text.Unsigned

/-!
# Listening

To listen on a socket in the file system, what was left there by an earlier run is taken away and
the folders that lead to it are made. To listen on a network address, it must end in a service
number and be one of the host's own.
-/

namespace ClusterVolumes.Endpoint

/-- Is the number of an address, written as four numbers, of some other host? -/
def isForeign (host : List Char) : Bool :=
  match (Text.pieces '.' host).map fun part => Text.readUnsigned 255 (String.ofList part) with
  | [some a, some b, some c, some d] => a ≠ 127 && a < 224 && (a, b, c, d) ≠ (0, 0, 0, 0)
  | _ => false

/-- Listen on a network address. -/
def bindAddress (address : String) : Except SystemFailure Unit :=
  match Text.cutLast ':' address.toList with
  | none => .error .invalidAddress
  | some (host, service) =>
    if (Text.readUnsigned (UInt16.size - 1) (String.ofList service)).isNone then
      .error .invalidServiceNumber
    else if isForeign host then .error .addressNotHere
    else .ok ()

/-- Take away a socket that was left behind. -/
def removeStale (path : String) : FileTree.Change Unit := do
  match ← (FileTree.unlink path).attempt with
  | .ok () => pure ()
  | .error e => if e = .noSuchEntry then pure () else throw e

/-- Make the folders that lead to a path. -/
def makeFoldersTo (path : String) : FileTree.Change Unit :=
  FileTree.makeFolders (FileTree.pathOf (path.startsWith "/") (FileTree.steps path).reverse.tail)

/-- Listen on an endpoint. -/
def listen : Endpoint → FileTree.Change Unit
  | .unix path => do
    removeStale path
    makeFoldersTo path
    FileTree.bind path
  | .tcp address => FileTree.Change.look fun _ => bindAddress address

/-- Listen for questions about the driver's health. -/
def listenForHealth (address : String) : Except Failure Unit :=
  (bindAddress address).mapError fun e =>
    .configuration ("failed to bind health server on " ++ address ++ ": " ++ e.message)

end ClusterVolumes.Endpoint
