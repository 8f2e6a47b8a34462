import ClusterVolumes.Csi.Message
import ClusterVolumes.Hypervisor.Report

/-!
# Types on the wire

The types of the values that the driver exchanges with its callers and with clusters, by their
names.
-/

namespace ClusterVolumes

open Csi Hypervisor

/-- A type with its written form. -/
structure WireType where
  Value : Type
  codec : Codec Value

namespace WireType

/-- The type that a codec is for. -/
def of {α : Type} (c : Codec α) : WireType := ⟨α, c⟩

/-- All types by name. -/
def catalogue : List (String × WireType) :=
  [ ("ApiVersion", .of ApiVersion.record.codec),
    ("ClusterMember", .of ClusterMember.record.codec),
    ("ClusterResource", .of ClusterResource.record.codec),
    ("StorageStatus", .of StorageStatus.record.codec),
    ("StorageVolume", .of StorageVolume.record.codec),
    ("TaskStatus", .of TaskStatus.record.codec),
    ("AccessMode", .of AccessMode.codec),
    ("VolumeAccessMode", .of VolumeAccessMode.record.codec),
    ("MountVolume", .of MountVolume.record.codec),
    ("BlockVolume", .of BlockVolume.record.codec),
    ("VolumeCapability", .of VolumeCapability.record.codec),
    ("ControllerCapability", .of ControllerCapability.codec),
    ("NodeCapability", .of NodeCapability.codec),
    ("PluginCapability", .of PluginCapability.codec),
    ("UsageUnit", .of UsageUnit.codec),
    ("CapacityRange", .of CapacityRange.record.codec),
    ("Topology", .of Topology.record.codec),
    ("TopologyRequirement", .of TopologyRequirement.record.codec),
    ("Volume", .of Volume.record.codec),
    ("GetPluginInfoResponse", .of GetPluginInfoResponse.record.codec),
    ("GetPluginCapabilitiesResponse", .of GetPluginCapabilitiesResponse.record.codec),
    ("ProbeResponse", .of ProbeResponse.record.codec),
    ("Empty", .of NoContent.record.codec),
    ("CreateVolumeRequest", .of CreateVolumeRequest.record.codec),
    ("CreateVolumeResponse", .of CreateVolumeResponse.record.codec),
    ("DeleteVolumeRequest", .of DeleteVolumeRequest.record.codec),
    ("ControllerPublishVolumeRequest", .of ControllerPublishVolumeRequest.record.codec),
    ("ControllerPublishVolumeResponse", .of ControllerPublishVolumeResponse.record.codec),
    ("ControllerUnpublishVolumeRequest", .of ControllerUnpublishVolumeRequest.record.codec),
    ("GetCapacityRequest", .of GetCapacityRequest.record.codec),
    ("GetCapacityResponse", .of GetCapacityResponse.record.codec),
    ("ControllerGetCapabilitiesResponse", .of ControllerGetCapabilitiesResponse.record.codec),
    ("NodeStageVolumeRequest", .of NodeStageVolumeRequest.record.codec),
    ("NodeUnstageVolumeRequest", .of NodeUnstageVolumeRequest.record.codec),
    ("NodePublishVolumeRequest", .of NodePublishVolumeRequest.record.codec),
    ("NodeUnpublishVolumeRequest", .of NodeUnpublishVolumeRequest.record.codec),
    ("NodeGetVolumeStatsRequest", .of NodeGetVolumeStatsRequest.record.codec),
    ("VolumeUsage", .of VolumeUsage.record.codec),
    ("NodeGetVolumeStatsResponse", .of NodeGetVolumeStatsResponse.record.codec),
    ("NodeExpandVolumeRequest", .of NodeExpandVolumeRequest.record.codec),
    ("NodeExpandVolumeResponse", .of NodeExpandVolumeResponse.record.codec),
    ("NodeGetInfoResponse", .of NodeGetInfoResponse.record.codec),
    ("NodeGetCapabilitiesResponse", .of NodeGetCapabilitiesResponse.record.codec) ]

/-- The type of a name. -/
def ofName? (name : String) : Option WireType :=
  catalogue.lookup name

end WireType

end ClusterVolumes
