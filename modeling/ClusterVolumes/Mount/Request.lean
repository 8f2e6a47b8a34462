/-!
# Requests to the mount table

What the driver asks of the node it runs on: to format, mount and unmount, to grow a file system,
and to tell sizes.
-/

namespace ClusterVolumes.Mount

/-- How full a file system is. -/
structure Usage where
  totalBytes : UInt64 := 0
  availableBytes : UInt64 := 0
  usedBytes : UInt64 := 0
  totalInodes : UInt64 := 0
  freeInodes : UInt64 := 0
  usedInodes : UInt64 := 0
  deriving DecidableEq, Repr

/-- A request about mounts. -/
inductive Request
  | isMountPoint (path : String)
  | formatAndMount (source target fsType : String) (options mkfsArguments : List String)
  | mount (source target : String) (fsType : Option String) (options : List String)
  | unmount (target : String)
  | deviceAt (target : String)
  | grow (device target : String)
  | usage (path : String)
  | deviceSize (device : String)
  deriving DecidableEq, Repr

/-- The type of the answer to a request, if it does not fail. -/
@[reducible] def Request.Answer : Request → Type
  | isMountPoint _ => Bool
  | formatAndMount .. => Unit
  | mount .. => Unit
  | unmount _ => Unit
  | deviceAt _ => Option String
  | grow .. => Unit
  | usage _ => Usage
  | deviceSize _ => UInt64

end ClusterVolumes.Mount
