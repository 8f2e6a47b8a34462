import ClusterVolumes.Csi.Capability
import ClusterVolumes.Topology
import ClusterVolumes.Volume.Sizing

/-!
# Messages of the storage interface

The requests and answers of the three roles of a storage driver. Each is written as an object with
all its fields, and a field that is missing when it is read keeps its default.
-/

namespace ClusterVolumes

def CapacityRange.record : Record CapacityRange where
  start := {}
  fields :=
    [ .of "requiredBytes" .word64 (·.requiredBytes) fun x s => { s with requiredBytes := x },
      .of "limitBytes" .word64 (·.limitBytes) fun x s => { s with limitBytes := x } ]

def Topology.record : Record Topology where
  start := {}
  fields := [.of "segments" .stringMap (·.segments) fun x s => { s with segments := x }]

def TopologyRequirement.record : Record TopologyRequirement where
  start := {}
  fields :=
    [ .of "requisite" (.list Topology.record.codec) (·.requisite) fun x s =>
        { s with requisite := x },
      .of "preferred" (.list Topology.record.codec) (·.preferred) fun x s =>
        { s with preferred := x } ]

namespace Csi

/-- A volume as it is handed out. -/
structure Volume where
  capacityBytes : UInt64 := 0
  volumeId : String := ""
  volumeContext : StringMap := ∅
  accessibleTopology : List Topology := []
  deriving DecidableEq, Repr

def Volume.record : Record Volume where
  start := {}
  fields :=
    [ .of "capacityBytes" .word64 (·.capacityBytes) fun x s => { s with capacityBytes := x },
      .of "volumeId" .text (·.volumeId) fun x s => { s with volumeId := x },
      .of "volumeContext" .stringMap (·.volumeContext) fun x s => { s with volumeContext := x },
      .of "accessibleTopology" (.list Topology.record.codec) (·.accessibleTopology) fun x s =>
        { s with accessibleTopology := x } ]

/-- The name and version of the driver. -/
structure GetPluginInfoResponse where
  name : String := ""
  vendorVersion : String := ""
  manifest : StringMap := ∅
  deriving DecidableEq, Repr

def GetPluginInfoResponse.record : Record GetPluginInfoResponse where
  start := {}
  fields :=
    [ .of "name" .text (·.name) fun x s => { s with name := x },
      .of "vendorVersion" .text (·.vendorVersion) fun x s => { s with vendorVersion := x },
      .of "manifest" .stringMap (·.manifest) fun x s => { s with manifest := x } ]

/-- What the driver as a whole can do. -/
structure GetPluginCapabilitiesResponse where
  capabilities : List PluginCapability := []
  deriving DecidableEq, Repr

def GetPluginCapabilitiesResponse.record : Record GetPluginCapabilitiesResponse where
  start := {}
  fields := [.of "capabilities" (.list PluginCapability.codec) (·.capabilities) fun x s =>
    { s with capabilities := x }]

/-- Whether the driver is ready. -/
structure ProbeResponse where
  ready : Bool := false
  deriving DecidableEq, Repr

def ProbeResponse.record : Record ProbeResponse where
  start := {}
  fields := [.of "ready" .bool (·.ready) fun x s => { s with ready := x }]

/-- The body of calls that carry no fields. -/
structure NoContent where
  deriving DecidableEq, Repr

def NoContent.record : Record NoContent where
  start := {}
  fields := []

/-- A volume that is to be made. -/
structure CreateVolumeRequest where
  name : String := ""
  capacityRange : Option CapacityRange := none
  volumeCapabilities : List VolumeCapability := []
  parameters : StringMap := ∅
  accessibilityRequirements : Option TopologyRequirement := none
  deriving DecidableEq, Repr

def CreateVolumeRequest.record : Record CreateVolumeRequest where
  start := {}
  fields :=
    [ .of "name" .text (·.name) fun x s => { s with name := x },
      .of "capacityRange" CapacityRange.record.codec.option (·.capacityRange) fun x s =>
        { s with capacityRange := x },
      .of "volumeCapabilities" (.list VolumeCapability.record.codec)
        (·.volumeCapabilities) fun x s =>
        { s with volumeCapabilities := x },
      .of "parameters" .stringMap (·.parameters) fun x s => { s with parameters := x },
      .of "accessibilityRequirements" TopologyRequirement.record.codec.option
        (·.accessibilityRequirements) fun x s =>
        { s with accessibilityRequirements := x } ]

/-- The volume that was made. -/
structure CreateVolumeResponse where
  volume : Volume := {}
  deriving DecidableEq, Repr

def CreateVolumeResponse.record : Record CreateVolumeResponse where
  start := {}
  fields := [.of "volume" Volume.record.codec (·.volume) fun x s => { s with volume := x }]

/-- A volume that is to be deleted. -/
structure DeleteVolumeRequest where
  volumeId : String := ""
  deriving DecidableEq, Repr

def DeleteVolumeRequest.record : Record DeleteVolumeRequest where
  start := {}
  fields := [.of "volumeId" .text (·.volumeId) fun x s => { s with volumeId := x }]

/-- A volume that is to be attached to a node. -/
structure ControllerPublishVolumeRequest where
  volumeId : String := ""
  nodeId : String := ""
  volumeCapability : Option VolumeCapability := none
  readonly : Bool := false
  volumeContext : StringMap := ∅
  deriving DecidableEq, Repr

def ControllerPublishVolumeRequest.record : Record ControllerPublishVolumeRequest where
  start := {}
  fields :=
    [ .of "volumeId" .text (·.volumeId) fun x s => { s with volumeId := x },
      .of "nodeId" .text (·.nodeId) fun x s => { s with nodeId := x },
      .of "volumeCapability" VolumeCapability.record.codec.option (·.volumeCapability) fun x s =>
        { s with volumeCapability := x },
      .of "readonly" .bool (·.readonly) fun x s => { s with readonly := x },
      .of "volumeContext" .stringMap (·.volumeContext) fun x s => { s with volumeContext := x } ]

/-- What a node needs to know of an attached volume. -/
structure ControllerPublishVolumeResponse where
  publishContext : StringMap := ∅
  deriving DecidableEq, Repr

def ControllerPublishVolumeResponse.record : Record ControllerPublishVolumeResponse where
  start := {}
  fields := [.of "publishContext" .stringMap (·.publishContext) fun x s =>
    { s with publishContext := x }]

/-- A volume that is to be detached from a node. -/
structure ControllerUnpublishVolumeRequest where
  volumeId : String := ""
  nodeId : String := ""
  deriving DecidableEq, Repr

def ControllerUnpublishVolumeRequest.record : Record ControllerUnpublishVolumeRequest where
  start := {}
  fields :=
    [ .of "volumeId" .text (·.volumeId) fun x s => { s with volumeId := x },
      .of "nodeId" .text (·.nodeId) fun x s => { s with nodeId := x } ]

/-- A question for the free space of a storage. -/
structure GetCapacityRequest where
  volumeCapabilities : List VolumeCapability := []
  parameters : StringMap := ∅
  accessibleTopology : Option Topology := none
  deriving DecidableEq, Repr

def GetCapacityRequest.record : Record GetCapacityRequest where
  start := {}
  fields :=
    [ .of "volumeCapabilities" (.list VolumeCapability.record.codec)
        (·.volumeCapabilities) fun x s =>
        { s with volumeCapabilities := x },
      .of "parameters" .stringMap (·.parameters) fun x s => { s with parameters := x },
      .of "accessibleTopology" Topology.record.codec.option (·.accessibleTopology) fun x s =>
        { s with accessibleTopology := x } ]

/-- The free space of a storage. -/
structure GetCapacityResponse where
  availableCapacity : UInt64 := 0
  deriving DecidableEq, Repr

def GetCapacityResponse.record : Record GetCapacityResponse where
  start := {}
  fields := [.of "availableCapacity" .word64 (·.availableCapacity) fun x s =>
    { s with availableCapacity := x }]

/-- What the driver can do for a whole cluster. -/
structure ControllerGetCapabilitiesResponse where
  capabilities : List ControllerCapability := []
  deriving DecidableEq, Repr

def ControllerGetCapabilitiesResponse.record : Record ControllerGetCapabilitiesResponse where
  start := {}
  fields := [.of "capabilities" (.list ControllerCapability.codec) (·.capabilities) fun x s =>
    { s with capabilities := x }]

/-- A volume that is to be mounted where a node keeps it. -/
structure NodeStageVolumeRequest where
  volumeId : String := ""
  publishContext : StringMap := ∅
  stagingTargetPath : String := ""
  volumeCapability : Option VolumeCapability := none
  volumeContext : StringMap := ∅
  deriving DecidableEq, Repr

def NodeStageVolumeRequest.record : Record NodeStageVolumeRequest where
  start := {}
  fields :=
    [ .of "volumeId" .text (·.volumeId) fun x s => { s with volumeId := x },
      .of "publishContext" .stringMap (·.publishContext) fun x s => { s with publishContext := x },
      .of "stagingTargetPath" .text (·.stagingTargetPath) fun x s =>
        { s with stagingTargetPath := x },
      .of "volumeCapability" VolumeCapability.record.codec.option (·.volumeCapability) fun x s =>
        { s with volumeCapability := x },
      .of "volumeContext" .stringMap (·.volumeContext) fun x s => { s with volumeContext := x } ]

/-- A volume that a node is no longer to keep. -/
structure NodeUnstageVolumeRequest where
  volumeId : String := ""
  stagingTargetPath : String := ""
  deriving DecidableEq, Repr

def NodeUnstageVolumeRequest.record : Record NodeUnstageVolumeRequest where
  start := {}
  fields :=
    [ .of "volumeId" .text (·.volumeId) fun x s => { s with volumeId := x },
      .of "stagingTargetPath" .text (·.stagingTargetPath) fun x s =>
        { s with stagingTargetPath := x } ]

/-- A volume that is to be shown to a pod. -/
structure NodePublishVolumeRequest where
  volumeId : String := ""
  publishContext : StringMap := ∅
  stagingTargetPath : String := ""
  targetPath : String := ""
  volumeCapability : Option VolumeCapability := none
  readonly : Bool := false
  volumeContext : StringMap := ∅
  deriving DecidableEq, Repr

def NodePublishVolumeRequest.record : Record NodePublishVolumeRequest where
  start := {}
  fields :=
    [ .of "volumeId" .text (·.volumeId) fun x s => { s with volumeId := x },
      .of "publishContext" .stringMap (·.publishContext) fun x s => { s with publishContext := x },
      .of "stagingTargetPath" .text (·.stagingTargetPath) fun x s =>
        { s with stagingTargetPath := x },
      .of "targetPath" .text (·.targetPath) fun x s => { s with targetPath := x },
      .of "volumeCapability" VolumeCapability.record.codec.option (·.volumeCapability) fun x s =>
        { s with volumeCapability := x },
      .of "readonly" .bool (·.readonly) fun x s => { s with readonly := x },
      .of "volumeContext" .stringMap (·.volumeContext) fun x s => { s with volumeContext := x } ]

/-- A volume that is no longer to be shown to a pod. -/
structure NodeUnpublishVolumeRequest where
  volumeId : String := ""
  targetPath : String := ""
  deriving DecidableEq, Repr

def NodeUnpublishVolumeRequest.record : Record NodeUnpublishVolumeRequest where
  start := {}
  fields :=
    [ .of "volumeId" .text (·.volumeId) fun x s => { s with volumeId := x },
      .of "targetPath" .text (·.targetPath) fun x s => { s with targetPath := x } ]

/-- A question for the usage of a volume. -/
structure NodeGetVolumeStatsRequest where
  volumeId : String := ""
  volumePath : String := ""
  stagingTargetPath : String := ""
  deriving DecidableEq, Repr

def NodeGetVolumeStatsRequest.record : Record NodeGetVolumeStatsRequest where
  start := {}
  fields :=
    [ .of "volumeId" .text (·.volumeId) fun x s => { s with volumeId := x },
      .of "volumePath" .text (·.volumePath) fun x s => { s with volumePath := x },
      .of "stagingTargetPath" .text (·.stagingTargetPath) fun x s =>
        { s with stagingTargetPath := x } ]

/-- How much of a volume is used. -/
structure VolumeUsage where
  available : UInt64 := 0
  total : UInt64 := 0
  used : UInt64 := 0
  unit : UsageUnit := .unknown
  deriving DecidableEq, Repr

def VolumeUsage.record : Record VolumeUsage where
  start := {}
  fields :=
    [ .of "available" .word64 (·.available) fun x s => { s with available := x },
      .of "total" .word64 (·.total) fun x s => { s with total := x },
      .of "used" .word64 (·.used) fun x s => { s with used := x },
      .of "unit" UsageUnit.codec (·.unit) fun x s => { s with unit := x } ]

/-- The usage of a volume. -/
structure NodeGetVolumeStatsResponse where
  usage : List VolumeUsage := []
  deriving DecidableEq, Repr

def NodeGetVolumeStatsResponse.record : Record NodeGetVolumeStatsResponse where
  start := {}
  fields := [.of "usage" (.list VolumeUsage.record.codec) (·.usage) fun x s =>
    { s with usage := x }]

/-- A volume whose file system is to fill its disk. -/
structure NodeExpandVolumeRequest where
  volumeId : String := ""
  volumePath : String := ""
  capacityRange : Option CapacityRange := none
  stagingTargetPath : String := ""
  volumeCapability : Option VolumeCapability := none
  deriving DecidableEq, Repr

def NodeExpandVolumeRequest.record : Record NodeExpandVolumeRequest where
  start := {}
  fields :=
    [ .of "volumeId" .text (·.volumeId) fun x s => { s with volumeId := x },
      .of "volumePath" .text (·.volumePath) fun x s => { s with volumePath := x },
      .of "capacityRange" CapacityRange.record.codec.option (·.capacityRange) fun x s =>
        { s with capacityRange := x },
      .of "stagingTargetPath" .text (·.stagingTargetPath) fun x s =>
        { s with stagingTargetPath := x },
      .of "volumeCapability" VolumeCapability.record.codec.option (·.volumeCapability) fun x s =>
        { s with volumeCapability := x } ]

/-- The size of a volume after it grew. -/
structure NodeExpandVolumeResponse where
  capacityBytes : UInt64 := 0
  deriving DecidableEq, Repr

def NodeExpandVolumeResponse.record : Record NodeExpandVolumeResponse where
  start := {}
  fields := [.of "capacityBytes" .word64 (·.capacityBytes) fun x s => { s with capacityBytes := x }]

/-- A node as the driver presents it. -/
structure NodeGetInfoResponse where
  nodeId : String := ""
  maxVolumesPerNode : UInt64 := 0
  accessibleTopology : Option Topology := none
  deriving DecidableEq, Repr

def NodeGetInfoResponse.record : Record NodeGetInfoResponse where
  start := {}
  fields :=
    [ .of "nodeId" .text (·.nodeId) fun x s => { s with nodeId := x },
      .of "maxVolumesPerNode" .word64 (·.maxVolumesPerNode) fun x s =>
        { s with maxVolumesPerNode := x },
      .of "accessibleTopology" Topology.record.codec.option (·.accessibleTopology) fun x s =>
        { s with accessibleTopology := x } ]

/-- What the driver can do on a node. -/
structure NodeGetCapabilitiesResponse where
  capabilities : List NodeCapability := []
  deriving DecidableEq, Repr

def NodeGetCapabilitiesResponse.record : Record NodeGetCapabilitiesResponse where
  start := {}
  fields := [.of "capabilities" (.list NodeCapability.codec) (·.capabilities) fun x s =>
    { s with capabilities := x }]

end Csi

end ClusterVolumes
