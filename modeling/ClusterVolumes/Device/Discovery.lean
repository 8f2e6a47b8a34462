import ClusterVolumes.FileTree.Pattern
import ClusterVolumes.Service
import ClusterVolumes.Text.Blank
import ClusterVolumes.Volume.Handle

/-!
# Finding devices

A node is told under which path it will find the disk of a volume. If the path is made from the
disk's number, the disk is looked up by that number among the SCSI devices of the node, since the
path itself may not be there; any other path is waited for.

- `Device.findByNumber` looks a disk up in a tree of files;
- `Device.resolve` finds the device behind a path;
- `Device.rescan` makes the system read the size of a disk again.
-/

namespace ClusterVolumes.Device

/-- Where the system shows its devices, and how long to wait for one, in milliseconds. -/
structure Finder where
  sysfs : String
  timeout : Nat := 30000
  pause : Nat := 500

/-- The vendor of the virtual disks. -/
def vendor : String := "QEMU"

/-- What may stand before a disk's number. -/
def numberStart : String := "naa."

/-- The address of a device is made of digits and colons. -/
def isAddress (name : String) : Bool :=
  !name.isEmpty && name.toList.all fun c => DiskName.isDigit c || c = ':'

/-- The text of the file at a place, blanks at its ends aside. -/
def attribute? (root : FileTree) (place : List FileName) : Option String :=
  match root.at? place with
  | some (.file text) => some (Text.trim text)
  | _ => none

/-- Two texts are the same number if they are equal up to the case of ASCII letters. -/
def sameNumber (a b : String) : Bool :=
  a.toList.map Char.toLower = b.toList.map Char.toLower

/-- Does the device at a place have a disk's number? -/
def hasNumber (root : FileTree) (place : List FileName) (number : String) : Bool :=
  (place.getLast?.bind FileName.text?).any isAddress && attribute? root (place ++ [.text "vendor"]) = some vendor &&
    match attribute? root (place ++ [.text "wwid"]) with
    | some found =>
      let own := (Text.dropStart? numberStart.toList found.toList).map String.ofList
      sameNumber (own.getD found) number
    | none => false

/-- The first block device of the device at a place: of the texts among the names in its folder of
block devices, the one that comes first when they are sorted. -/
def firstBlock? (root : FileTree) (place : List FileName) : Option String :=
  let names := ((root.at? (place ++ [.text "block"])).map FileTree.names).getD []
  (FileName.rising (fun name => [.text name]) names).head?

/-- The block device behind the device at a place, if that is a disk of the given number. -/
def blockOf? (root : FileTree) (number : String) (place : List FileName) : Option String :=
  if hasNumber root place number then (firstBlock? root place).map ("/dev/" ++ ·) else none

/-- The pattern of the places where the system shows its SCSI devices. -/
def scsiPattern (sysfs : String) : String :=
  FileTree.join sysfs "bus/scsi/devices/*"

/-- The device of a disk by its number: that of the first SCSI device, in the order of their names,
that is a disk of this number and has a block device. -/
def findByNumber (root : FileTree) (sysfs number : String) : Except Failure (Option String) :=
  match Pattern.places root (scsiPattern sysfs) with
  | .error fault => .error (.internal ("invalid sysfs pattern: " ++ fault.message))
  | .ok places => .ok (places.findSome? (blockOf? root number))

/-- Look whether a path is there. -/
def isThere (path : String) : Service (Option Unit) := do
  pure (if (← Service.files).existsAt path then some () else none)

/-- Wait until a path is there. -/
def awaitPath (finder : Finder) (path : String) : Service String := do
  Service.pollUntil finder.timeout finder.pause (isThere path) (.deviceNotFound path)
  pure path

/-- The device behind a path. -/
def resolve (finder : Finder) (path : String) : Service String := do
  match Text.dropStart? VolumeHandle.devicePathStart.toList path.toList with
  | some number =>
    match ← Service.ofExcept
      (findByNumber (← Service.files) finder.sysfs (String.ofList number)) with
    | some device => pure device
    | none => awaitPath finder path
  | none => awaitPath finder path

/-- The characters behind all repetitions of a beginning. -/
def dropStarts (beginning : List Char) : (fuel : Nat) → List Char → List Char
  | 0, cs => cs
  | fuel + 1, cs =>
    match Text.dropStart? beginning cs with
    | some rest => dropStarts beginning fuel rest
    | none => cs

/-- The file by which a disk is read again. -/
def rescanPath (sysfs device : String) : String :=
  let name := String.ofList (dropStarts "/dev/".toList device.length device.toList)
  FileTree.join (FileTree.join (FileTree.join sysfs "block") name) "device/rescan"

/-- Make the system read the size of a disk again. -/
def rescan (finder : Finder) (device : String) : Service Unit := do
  let path := rescanPath finder.sysfs device
  match ← Service.writeFile path "1" with
  | .ok () => pure ()
  | .error e => throw (.mountFailed path ("rescan failed: " ++ e.message))

end ClusterVolumes.Device
