import ClusterVolumes.Failure
import ClusterVolumes.Mount.Request
import ClusterVolumes.Site.Keyed

/-!
# A mount table as it answers

What is mounted where, by the text of the path, and how large the devices are.
-/

namespace ClusterVolumes.Site

open Mount

/-- The mounts of a node, the sizes of its devices and how full its file systems are. -/
structure MountTable where
  mounted : Keyed String String := Keyed.empty
  sizes : Keyed String UInt64 := Keyed.empty
  usage : Usage := {}

namespace MountTable

/-- How a mount table answers a request, and what becomes of it. -/
def answer : (r : Request) → MountTable → Except Failure r.Answer × MountTable
  | .isMountPoint path, m => (.ok (m.mounted path).isSome, m)
  | .formatAndMount source target _ _ _, m =>
      (.ok (), { m with mounted := m.mounted.put target (some source) })
  | .mount source target _ _, m =>
      (.ok (), { m with mounted := m.mounted.put target (some source) })
  | .unmount target, m => (.ok (), { m with mounted := m.mounted.put target none })
  | .deviceAt target, m => (.ok (m.mounted target), m)
  | .grow _ _, m => (.ok (), m)
  | .usage _, m => (.ok m.usage, m)
  | .deviceSize device, m =>
    match m.sizes device with
    | some size => (.ok size, m)
    | none => (.error (.deviceNotFound device), m)

end MountTable

end ClusterVolumes.Site
