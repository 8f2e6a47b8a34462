import ClusterVolumes.Site.Cluster
import ClusterVolumes.Site.Fault
import ClusterVolumes.Site.Mounts
import ClusterVolumes.Site.Orchestrator

/-!
# A site

Everything that the driver talks to, as a state: clusters by region, an orchestrator, the mounts and
files of a node, a clock that only sleeping moves, and the faults that are still to strike.
`Site.answer` is how a call is answered and what becomes of the site, so that `Site.run` runs a
service from beginning to end.
-/

namespace ClusterVolumes

/-- What the driver talks to. The log holds the calls of clusters, orchestrator and mount table, the
latest first. -/
structure Site where
  clusters : Keyed String Site.ClusterState := Keyed.empty
  orchestrator : Site.OrchestratorState := {}
  mounts : Site.MountTable := {}
  files : FileTree := .empty
  clock : Nat := 0
  faults : List Site.Fault := []
  held : List String := []
  log : List Call := []

namespace Site

/-- Answer a call that may fail, when the faults have had their say. -/
def serve {α : Type} (c : Call) (effect : Site → Except Failure α × Site) (s : Site) :
    Except Failure α × Site :=
  let (struck, faults) := Fault.strike c s.faults none
  let s := { s with faults := faults, log := c :: s.log }
  match struck with
  | .spared => effect s
  | .before failure => (.error failure, s)
  | .afterwards failure => ((effect s).1.bind fun _ => .error failure, (effect s).2)

/-- Change the files of the node. -/
def changeFiles (c : FileTree.Change Unit) (s : Site) : Except SystemFailure Unit × Site :=
  let (outcome, files) := c.run s.files
  (outcome, { s with files := files })

/-- The first time, in milliseconds, that the clock cannot show: its seconds are a signed number of 64
bits. -/
def clockEnd : Nat := UInt64.size / 2 * 1000

/-- How a call is answered, and what becomes of the site. -/
def answer : (c : Call) → Site → c.Answer × Site
  | .cluster region r, s =>
    s.serve (.cluster region r) fun s =>
      match s.clusters region with
      | none => (.error (.regionNotFound region), s)
      | some c =>
        let (outcome, c) := c.answer region r
        (outcome, { s with clusters := s.clusters.put region (some c) })
  | .orchestrator r, s =>
    s.serve (.orchestrator r) fun s =>
      let (outcome, o) := s.orchestrator.answer r
      (outcome, { s with orchestrator := o })
  | .mounts r, s =>
    s.serve (.mounts r) fun s =>
      let (outcome, m) := s.mounts.answer r
      (outcome, { s with mounts := m })
  | .files, s => (s.files, s)
  | .makeFolders path, s => s.changeFiles (FileTree.makeFolders path)
  | .removeFolder path, s => s.changeFiles (FileTree.removeFolder path)
  | .writeFile path text, s => s.changeFiles (FileTree.write path text)
  | .sleep ms, s => ((), { s with clock := s.clock + ms })
  | .deadline ms, s => (decide (s.clock + ms < clockEnd), s)
  | .acquire key, s => ((), { s with held := key :: s.held })
  | .release key, s => ((), { s with held := s.held.erase key })

/-- The outcome of a service that is run at a site, and the site afterwards. -/
def run {α : Type} (service : Service α) (s : Site) : Except Failure α × Site :=
  Program.run (I := collaborators) answer service.run s

end Site

end ClusterVolumes
