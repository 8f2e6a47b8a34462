import ClusterVolumes.Http.Message

/-!
# Servers that reply from a script

A server that gives the replies of a script in turn and keeps what it was sent, and one that is out
of reach.
-/

namespace ClusterVolumes.Site

open Http

/-- A server with the replies that it will give. The log holds what it was sent, the latest
first. -/
structure ScriptedServer where
  script : List Reply := []
  log : List Request := []

namespace ScriptedServer

/-- The reply of a server whose script is at its end. -/
def exhausted : Reply := ⟨500, "script exhausted"⟩

/-- How the server answers, and what becomes of it. -/
def answer (r : Request) (s : ScriptedServer) : Option Reply × ScriptedServer :=
  (some (s.script.head?.getD exhausted), { script := s.script.tail, log := r :: s.log })

/-- How a server answers that is out of reach: not at all. -/
def outOfReach (_ : Request) (s : ScriptedServer) : Option Reply × ScriptedServer :=
  (none, s)

end ScriptedServer

end ClusterVolumes.Site
