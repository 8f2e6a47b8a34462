import ClusterVolumes.Json.Codec

/-!
# Access to volumes and capabilities of the driver

How a volume is used (`VolumeCapability`), and the lists by which the driver tells what it can do.
-/

namespace ClusterVolumes.Csi

/-- Who uses a volume, and how. -/
inductive AccessMode
  | unknown
  | singleNodeWriter
  | singleNodeReaderOnly
  | multiNodeReaderOnly
  | multiNodeSingleWriter
  | multiNodeMultiWriter
  | singleNodeSingleWriter
  | singleNodeMultiWriter
  deriving DecidableEq, Repr

/-- The names of the access modes. -/
def AccessMode.names : List (AccessMode × String) :=
  [ (.unknown, "UNKNOWN"),
    (.singleNodeWriter, "SINGLE_NODE_WRITER"),
    (.singleNodeReaderOnly, "SINGLE_NODE_READER_ONLY"),
    (.multiNodeReaderOnly, "MULTI_NODE_READER_ONLY"),
    (.multiNodeSingleWriter, "MULTI_NODE_SINGLE_WRITER"),
    (.multiNodeMultiWriter, "MULTI_NODE_MULTI_WRITER"),
    (.singleNodeSingleWriter, "SINGLE_NODE_SINGLE_WRITER"),
    (.singleNodeMultiWriter, "SINGLE_NODE_MULTI_WRITER") ]

def AccessMode.codec : Codec AccessMode := .constant names

/-- The word for an access mode in messages. -/
def AccessMode.word : AccessMode → String
  | unknown => "Unknown"
  | singleNodeWriter => "SingleNodeWriter"
  | singleNodeReaderOnly => "SingleNodeReaderOnly"
  | multiNodeReaderOnly => "MultiNodeReaderOnly"
  | multiNodeSingleWriter => "MultiNodeSingleWriter"
  | multiNodeMultiWriter => "MultiNodeMultiWriter"
  | singleNodeSingleWriter => "SingleNodeSingleWriter"
  | singleNodeMultiWriter => "SingleNodeMultiWriter"

/-- The access mode of a volume. -/
structure VolumeAccessMode where
  mode : AccessMode := .unknown
  deriving DecidableEq, Repr

def VolumeAccessMode.record : Record VolumeAccessMode where
  start := {}
  fields := [.of "mode" AccessMode.codec (·.mode) fun x s => { s with mode := x }]

/-- Use through a file system. -/
structure MountVolume where
  fsType : String := ""
  mountFlags : List String := []
  deriving DecidableEq, Repr

def MountVolume.record : Record MountVolume where
  start := {}
  fields :=
    [ .of "fsType" .text (·.fsType) fun x s => { s with fsType := x },
      .of "mountFlags" (.list .text) (·.mountFlags) fun x s => { s with mountFlags := x } ]

/-- Use as a bare block device. -/
structure BlockVolume where
  deriving DecidableEq, Repr

def BlockVolume.record : Record BlockVolume := ⟨{}, []⟩

/-- How a volume will be used. -/
structure VolumeCapability where
  accessMode : VolumeAccessMode := {}
  mount : Option MountVolume := none
  block : Option BlockVolume := none
  deriving DecidableEq, Repr

namespace VolumeCapability

def record : Record VolumeCapability where
  start := {}
  fields :=
    [ .of "accessMode" VolumeAccessMode.record.codec (·.accessMode) fun x s =>
        { s with accessMode := x },
      .optional "mount" MountVolume.record.codec (·.mount) fun x s => { s with mount := x },
      .optional "block" BlockVolume.record.codec (·.block) fun x s => { s with block := x } ]

/-- Use through a file system of a type. -/
def ofFileSystem (mode : AccessMode) (fsType : String) : VolumeCapability :=
  { accessMode := ⟨mode⟩, mount := some { fsType } }

/-- Use as a bare block device. -/
def ofBlock (mode : AccessMode) : VolumeCapability :=
  { accessMode := ⟨mode⟩, block := some {} }

/-- The access mode. -/
def mode (c : VolumeCapability) : AccessMode :=
  c.accessMode.mode

/-- Is the volume used as a bare block device? -/
def isBlock (c : VolumeCapability) : Bool :=
  c.block.isSome

/-- The type of file system that is asked for, empty if none is. -/
def fsType (c : VolumeCapability) : String :=
  (c.mount.map (·.fsType)).getD ""

/-- The mount options that are asked for. -/
def mountFlags (c : VolumeCapability) : List String :=
  (c.mount.map (·.mountFlags)).getD []

end VolumeCapability

/-- What the driver can do for a whole cluster. -/
inductive ControllerCapability
  | createDeleteVolume
  | publishUnpublishVolume
  | getCapacity
  | expandVolume
  | getVolume
  deriving DecidableEq, Repr

def ControllerCapability.codec : Codec ControllerCapability :=
  .constant
    [ (.createDeleteVolume, "CREATE_DELETE_VOLUME"),
      (.publishUnpublishVolume, "PUBLISH_UNPUBLISH_VOLUME"),
      (.getCapacity, "GET_CAPACITY"),
      (.expandVolume, "EXPAND_VOLUME"),
      (.getVolume, "GET_VOLUME") ]

/-- What the driver can do on a node. -/
inductive NodeCapability
  | stageUnstageVolume
  | expandVolume
  | getVolumeStats
  deriving DecidableEq, Repr

def NodeCapability.codec : Codec NodeCapability :=
  .constant
    [ (.stageUnstageVolume, "STAGE_UNSTAGE_VOLUME"),
      (.expandVolume, "EXPAND_VOLUME"),
      (.getVolumeStats, "GET_VOLUME_STATS") ]

/-- What the driver as a whole can do. -/
inductive PluginCapability
  | controllerService
  | volumeAccessibilityConstraints
  | expandOnline
  deriving DecidableEq, Repr

def PluginCapability.codec : Codec PluginCapability :=
  .constant
    [ (.controllerService, "CONTROLLER_SERVICE"),
      (.volumeAccessibilityConstraints, "VOLUME_ACCESSIBILITY_CONSTRAINTS"),
      (.expandOnline, "EXPAND_ONLINE") ]

/-- What a usage counts. -/
inductive UsageUnit
  | unknown
  | bytes
  | inodes
  deriving DecidableEq, Repr

def UsageUnit.codec : Codec UsageUnit :=
  .constant [(.unknown, "UNKNOWN"), (.bytes, "BYTES"), (.inodes, "INODES")]

end ClusterVolumes.Csi
