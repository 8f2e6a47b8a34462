import ClusterVolumes.Failure
import ClusterVolumes.TextMap
import ClusterVolumes.Text.Blank
import ClusterVolumes.Text.Unsigned

/-!
# Options of a storage class

A storage class gives its options as a map from texts to texts. The table `VolumeOptions.fields`
ties each key to the field of `VolumeOptions` that it fills; `VolumeOptions.ofMap` reads a map
through the table and `VolumeOptions.toMap` writes the fields that are set.

Only `storage`, `format`, `ssd`, `blockSize` and `inodeSize` change what the driver does. The others
are checked and carried along for whatever attaches the disk to a machine.
-/

namespace ClusterVolumes

/-- The options under which a volume is made. -/
structure VolumeOptions where
  storage : String := ""
  format : Option String := none
  cache : Option String := none
  ssd : Bool := false
  diskIops : Option UInt32 := none
  diskMbps : Option UInt32 := none
  blockSize : Option UInt32 := none
  inodeSize : Option UInt32 := none
  replicate : Bool := false
  replicateSchedule : Option String := none
  replicateZones : Option String := none
  backup : Bool := false
  deriving DecidableEq, Repr

namespace VolumeOptions

/-- How an option is written and where it is kept. A text of a list of `allowed` ones must be one of
them; an empty list allows every text. -/
inductive Slot
  | text (allowed : List String) (get : VolumeOptions → String)
      (set : String → VolumeOptions → VolumeOptions)
  | flag (get : VolumeOptions → Bool) (set : Bool → VolumeOptions → VolumeOptions)
  | count (get : VolumeOptions → Option UInt32)
      (set : Option UInt32 → VolumeOptions → VolumeOptions)

/-- A key and what it fills. -/
structure OptionField where
  key : String
  slot : Slot

/-- An optional text that is not kept when it is empty. -/
def nonempty (s : String) : Option String :=
  if s.isEmpty then none else some s

/-- The keys of a storage class. -/
def fields : List OptionField :=
  [ ⟨"storage", .text [] (·.storage) fun s o => { o with storage := s }⟩,
    ⟨"storageFormat", .text ["raw", "qcow2", "vmdk"] (·.format.getD "") fun s o =>
      { o with format := nonempty s }⟩,
    ⟨"cache", .text ["directsync", "none", "writethrough", "writeback", "unsafe"]
      (·.cache.getD "") fun s o =>
      { o with cache := nonempty s }⟩,
    ⟨"ssd", .flag (·.ssd) fun b o => { o with ssd := b }⟩,
    ⟨"diskIOPS", .count (·.diskIops) fun n o => { o with diskIops := n }⟩,
    ⟨"diskMBps", .count (·.diskMbps) fun n o => { o with diskMbps := n }⟩,
    ⟨"blockSize", .count (·.blockSize) fun n o => { o with blockSize := n }⟩,
    ⟨"inodeSize", .count (·.inodeSize) fun n o => { o with inodeSize := n }⟩,
    ⟨"replicate", .flag (·.replicate) fun b o => { o with replicate := b }⟩,
    ⟨"replicateSchedule", .text [] (·.replicateSchedule.getD "") fun s o =>
      { o with replicateSchedule := nonempty s }⟩,
    ⟨"replicateZones", .text [] (·.replicateZones.getD "") fun s o =>
      { o with replicateZones := nonempty s }⟩,
    ⟨"backup", .flag (·.backup) fun b o => { o with backup := b }⟩ ]

/-- A truth value in words, in any case of letters. Only ASCII letters can become letters of these
words in lower case. -/
def readFlag? (s : String) : Option Bool :=
  let word := String.ofList (s.toList.map Char.toLower)
  if word = "true" ∨ word = "1" ∨ word = "yes" then some true
  else if word = "false" ∨ word = "0" ∨ word = "no" ∨ word = "" then some false
  else none

/-- Put the text of one option, blanks at its ends aside, where the option is kept. -/
def OptionField.read (f : OptionField) (raw : String) (o : VolumeOptions) :
    Except Failure VolumeOptions :=
  let word := Text.trim raw
  match f.slot with
  | .text allowed _ set =>
    if allowed.isEmpty || allowed.contains word then .ok (set word o)
    else .error (.invalidArgument
      ("parameter " ++ f.key ++ " must be one of " ++ Text.joinWith ", " allowed ++
      ", got " ++ Text.quoted word))
  | .flag _ set =>
    match readFlag? word with
    | some b => .ok (set b o)
    | none => .error (.invalidArgument
        ("parameter " ++ f.key ++ " must be a boolean, got " ++ Text.quoted word))
  | .count _ set =>
    match Text.readUnsigned (UInt32.size - 1) word with
    | some n => .ok (set (some (UInt32.ofNat n)) o)
    | none =>
      .error (.invalidArgument ("parameter " ++ f.key ++ " must be a non-negative integer, got " ++
        Text.quoted word))

/-- The text of one option, or none if it is not set. -/
def OptionField.write (f : OptionField) (o : VolumeOptions) : Option String :=
  match f.slot with
  | .text _ get _ => nonempty (get o)
  | .flag get _ => if get o then some "true" else none
  | .count get _ => (get o).map fun n => toString n.toNat

/-- Read the options that a map gives; other keys are no matter. -/
def readFields (m : StringMap) : List OptionField → VolumeOptions → Except Failure VolumeOptions
  | [], o => .ok o
  | f :: fs, o =>
    match m.get? f.key with
    | none => readFields m fs o
    | some raw => f.read raw o >>= readFields m fs

/-- The options that a map gives. -/
def ofMap (m : StringMap) : Except Failure VolumeOptions :=
  readFields m fields {}

/-- The map of the options that are set. -/
def toMap (o : VolumeOptions) : StringMap :=
  TextMap.ofList (fields.filterMap fun f => (f.write o).map fun text => (f.key, text))

/-- The mount options that follow from the options. -/
def mountOptions (o : VolumeOptions) : List String :=
  if o.ssd then ["discard"] else []

/-- A flag and its value, if there is one. -/
def sizeArguments (flag before : String) : Option UInt32 → List String
  | some n => [flag, before ++ toString n.toNat]
  | none => []

/-- The arguments with which a file system of a type is made. -/
def mkfsArguments (o : VolumeOptions) (fsType : String) : List String :=
  if fsType = "ext2" ∨ fsType = "ext3" ∨ fsType = "ext4" then
    sizeArguments "-b" "" o.blockSize ++ sizeArguments "-I" "" o.inodeSize
  else if fsType = "xfs" then
    sizeArguments "-b" "size=" o.blockSize ++ sizeArguments "-i" "size=" o.inodeSize
  else []

end VolumeOptions

end ClusterVolumes
