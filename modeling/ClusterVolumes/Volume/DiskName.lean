import ClusterVolumes.Text.Cut

/-!
# Names of disks

A disk that belongs to a virtual machine is called `vm-<id>-<name>`, with a format as in `.qcow2`
behind it if it lies in a directory. The driver owns its disks under one reserved machine number.

- `vmNumber` finds the machine number in a name;
- `claimName` finds the name that the orchestrator gave to the volume;
- `provisioned` builds the name of a new disk.
-/

namespace ClusterVolumes.DiskName

/-- The machine number under which the driver owns its disks. -/
def reservedVm : Nat := 9999

/-- Is the character one of `0` to `9`? -/
def isDigit (c : Char) : Bool :=
  '0' ≤ c && c ≤ '9'

/-- The run of digits of a machine mark at the start of a text: `vm-`, three to nine digits of which
the first is not `0`, and then `-` or the end. -/
def vmMark? (cs : List Char) : Option (List Char) := do
  let behind ← Text.dropStart? ['v', 'm', '-'] cs
  let digits := behind.takeWhile isDigit
  let rest := behind.dropWhile isDigit
  if digits.head? ≠ some '0' ∧ 3 ≤ digits.length ∧ digits.length ≤ 9 ∧
    (rest = [] ∨ rest.head? = some '-')
  then some digits else none

/-- The digits of the leftmost machine mark that stands where a mark may begin: at the start of the
text (`start`) or right behind `-` or `/`. -/
def vmDigitsFrom? (start : Bool) : List Char → Option (List Char)
  | [] => none
  | c :: cs =>
    match if start then vmMark? (c :: cs) else none with
    | some digits => some digits
    | none => vmDigitsFrom? (c = '-' || c = '/') cs

/-- The machine number in the name of a disk, empty if there is none. -/
def vmNumber (disk : String) : String :=
  String.ofList ((vmDigitsFrom? true disk.toList).getD [])

/-- The volume's name in the name of a disk: what stands behind the second `-`, up to the first dot;
empty if there are fewer than two `-`. -/
def claimName (disk : String) : String :=
  let name := do
    let (_, behind) ← Text.cutFirst '-' disk.toList
    let (_, name) ← Text.cutFirst '-' behind
    pure (name.takeWhile (· ≠ '.'))
  String.ofList (name.getD [])

/-- The name of the disk that the driver makes for a volume. -/
def provisioned (name : String) : String :=
  "vm-" ++ toString reservedVm ++ "-" ++ name

end ClusterVolumes.DiskName
