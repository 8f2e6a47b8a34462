import ClusterVolumes.Failure

/-!
# Endpoints

The address on which the driver listens: a socket in the file system, `unix://path`, or a network
address, `tcp://address`.
-/

namespace ClusterVolumes

/-- Where the driver listens. -/
inductive Endpoint
  | unix (path : String)
  | tcp (address : String)
  deriving DecidableEq, Repr

namespace Endpoint

/-- The text of an endpoint. -/
def text : Endpoint → String
  | unix path => "unix://" ++ path
  | tcp address => "tcp://" ++ address

/-- Read an endpoint from its text. -/
def parse (s : String) : Except Failure Endpoint :=
  match Text.dropStart? "unix://".toList s.toList with
  | some [] => .error (.configuration ("endpoint " ++ s ++ " has no path"))
  | some path => .ok (.unix (String.ofList path))
  | none =>
    match Text.dropStart? "tcp://".toList s.toList with
    | some [] => .error (.configuration ("endpoint " ++ s ++ " has no address"))
    | some address => .ok (.tcp (String.ofList address))
    | none =>
      .error (.configuration
        ("unsupported endpoint " ++ Text.quoted s ++ ", expected unix:// or tcp://"))

end Endpoint

end ClusterVolumes
