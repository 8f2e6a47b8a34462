import ClusterVolumes.Failure

/-!
# Sizes of volumes

Disks are allocated in whole GiB. `requestedSize` is the least whole number of GiB that a capacity
range asks for, and refuses a range that holds none.
-/

namespace ClusterVolumes

/-- The bytes that a volume must and may have; 0 means that nothing is asked. -/
structure CapacityRange where
  requiredBytes : UInt64 := 0
  limitBytes : UInt64 := 0
  deriving DecidableEq, Repr

namespace CapacityRange

/-- One GiB in bytes. -/
def gib : Nat := 1024 * 1024 * 1024

/-- The size of a volume for which nothing is asked. -/
def defaultSize : Nat := 10 * gib

/-- The size of a volume made for a range: the required bytes in whole GiB, and if none are required
the default size or the limit, whichever is less. -/
def requestedSize (range : CapacityRange) : Except Failure UInt64 :=
  let required := range.requiredBytes.toNat
  let limit := range.limitBytes.toNat
  if required = 0 then
    if 0 < limit ∧ limit < defaultSize then
      let size := limit / gib * gib
      if size = 0 then
        .error (.invalidArgument
          ("limit of " ++ toString limit ++ " bytes is below the 1GiB allocation unit"))
      else .ok (UInt64.ofNat size)
    else .ok (UInt64.ofNat defaultSize)
  else
    let size := (required + (gib - 1)) / gib * gib
    if size ≥ UInt64.size then
      .error (.invalidArgument ("required " ++ toString required ++ " bytes is too large"))
    else if 0 < limit ∧ limit < size then
      .error (.invalidArgument
        ("required " ++ toString required ++ " bytes rounds up to " ++ toString size ++
        " bytes, above the limit of " ++ toString limit))
    else .ok (UInt64.ofNat size)

end CapacityRange

/-- The size that a request without a range, or with one, asks for. -/
def requestedSize (range : Option CapacityRange) : Except Failure UInt64 :=
  (range.getD {}).requestedSize

end ClusterVolumes
