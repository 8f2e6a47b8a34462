import ClusterVolumes.Failure
import ClusterVolumes.Volume.DiskName

/-!
# Volume handles

A volume is addressed by four parts, `region/zone/storage/disk`. The text is what the orchestrator
keeps, so it is the only record that ties a volume to its disk. An empty zone means a storage that
all nodes of the region share. The disk may begin with a numeric folder, the machine number, and end
with a format, as in `9999/vm-9999-pvc-1.qcow2`.

- `VolumeHandle.parse` reads the text and accepts exactly the `WellFormed` handles;
- `VolumeHandle.parseLegacy` also reads the older form `region/zone/disk`, whose storage comes back
  empty;
- `VolumeHandle.text` writes it.
-/

namespace ClusterVolumes

/-- The parts that locate a volume among regions, nodes and storages. -/
structure VolumeHandle where
  region : String
  zone : String
  storage : String
  disk : String
  deriving DecidableEq, Repr

namespace VolumeHandle

/-- The formats that the end of a file name may tell. -/
def formats : List String := ["raw", "qcow2", "vmdk"]

/-- What every device path begins with. -/
def devicePathStart : String := "/dev/disk/by-id/wwn-0x"

/-! ## Building -/

/-- The name of a disk of the given format: `<machine>/<disk>.<format>`, without the folder if the
name holds no machine number, and the name itself if there is no format. -/
def formattedDisk (disk format : String) : String :=
  if format.isEmpty then disk
  else if (DiskName.vmNumber disk).isEmpty then disk ++ "." ++ format
  else DiskName.vmNumber disk ++ "/" ++ disk ++ "." ++ format

/-- The handle of a disk that is laid out in the given format. -/
def withFormat (region zone storage disk format : String) : VolumeHandle :=
  ⟨region, zone, storage, formattedDisk disk format⟩

/-! ## Reading and writing -/

/-- The text of a handle. -/
def text (v : VolumeHandle) : String :=
  v.region ++ "/" ++ v.zone ++ "/" ++ v.storage ++ "/" ++ v.disk

/-- The folder and the file of a disk, the folder empty if the disk has none. -/
def layout (disk : List Char) : List Char × List Char :=
  (Text.cutFirst '/' disk).getD ([], disk)

/-- A disk is a file name, or a file in one folder whose name is a number. -/
def isDisk (disk : List Char) : Bool :=
  match Text.cutFirst '/' disk with
  | none => true
  | some (folder, file) => !folder.isEmpty && folder.all DiskName.isDigit && !file.isEmpty &&
      !file.contains '/'

/-- Four parts of a text, the first three ended by a slash. -/
def fourParts? (s : List Char) : Option (List Char × List Char × List Char × List Char) := do
  let (region, rest) ← Text.cutFirst '/' s
  let (zone, rest) ← Text.cutFirst '/' rest
  let (storage, disk) ← Text.cutFirst '/' rest
  pure (region, zone, storage, disk)

/-- Read a handle from its text. -/
def parse (s : String) : Except Failure VolumeHandle :=
  match fourParts? s.toList with
  | none => .error (.invalidHandle s "expected region/zone/storage/disk")
  | some (region, zone, storage, disk) =>
    if region.isEmpty then .error (.invalidHandle s "region is empty")
    else if storage.isEmpty then .error (.invalidHandle s "storage is empty")
    else if disk.isEmpty then .error (.invalidHandle s "disk is empty")
    else if !isDisk disk then .error (.invalidHandle s "disk folder must be a numeric vm id")
    else .ok ⟨String.ofList region, String.ofList zone, String.ofList storage, String.ofList disk⟩

/-- Read a handle in its present form or in the older one without a storage. -/
def parseLegacy (s : String) : Except Failure VolumeHandle :=
  match Text.pieces '/' s.toList with
  | [region, zone, disk] =>
    if region.isEmpty || disk.isEmpty then .error (.invalidHandle s "expected region/zone/disk")
    else .ok ⟨String.ofList region, String.ofList zone, "", String.ofList disk⟩
  | _ => parse s

/-! ## Views -/

/-- Is the volume on a storage that all nodes of its region share? -/
def isShared (v : VolumeHandle) : Bool :=
  v.zone.isEmpty

/-- The numeric folder of the disk, empty if it has none. -/
def folder (v : VolumeHandle) : String :=
  String.ofList (layout v.disk.toList).1

/-- The file name of the disk. -/
def filename (v : VolumeHandle) : String :=
  String.ofList (layout v.disk.toList).2

/-- The format that the end of a file name tells, empty if it tells none. -/
def formatOf (file : List Char) : String :=
  match Text.cutLast '.' file with
  | some (_, suffix) => if formats.contains (String.ofList suffix) then String.ofList suffix else ""
  | none => ""

/-- The format of the disk, empty if its name tells none. -/
def format (v : VolumeHandle) : String :=
  formatOf (layout v.disk.toList).2

/-- The number of the machine that owns the disk, empty if its name tells none. -/
def vmNumber (v : VolumeHandle) : String :=
  DiskName.vmNumber v.disk

/-- The name that the orchestrator gave to the volume, empty if the disk's name tells none. -/
def claimName (v : VolumeHandle) : String :=
  DiskName.claimName v.disk

/-- The cluster's own name for the disk. -/
def volid (v : VolumeHandle) : String :=
  v.storage ++ ":" ++ v.disk

/-- The 64-bit digest of a sequence of bytes: each byte is mixed in by exclusive or, and the digest
is then multiplied by a prime. -/
def digest (bytes : List UInt8) : UInt64 :=
  bytes.foldl (fun h b => (h ^^^ b.toUInt64) * 0x100000001b3) 0xcbf29ce484222325

/-- A 64-bit number in sixteen hexadecimal digits. -/
def hex16 (n : UInt64) : String :=
  let digits := Nat.toDigits 16 n.toNat
  String.ofList (List.replicate (16 - digits.length) '0' ++ digits)

/-- The path under which a node finds the disk. It hangs on the disk's name alone, so it stays when
the volume moves. -/
def devicePath (v : VolumeHandle) : String :=
  devicePathStart ++ hex16 (digest v.disk.toUTF8.toList)

/-! ## Siblings -/

/-- The handle of a new disk beside this one, in the same folder and of the same format. -/
def sibling (v : VolumeHandle) (name : String) : VolumeHandle :=
  let file := if v.format.isEmpty then name else name ++ "." ++ v.format
  { v with disk := if v.folder.isEmpty then file else v.folder ++ "/" ++ file }

end VolumeHandle

end ClusterVolumes
