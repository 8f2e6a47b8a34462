import ClusterVolumes.Proofs.Json.Faithful
import ClusterVolumes.WireType

/-!
# The types on the wire read what they write

Each type is faithful with as much room as its values are nested deep. A structure is listed with the codecs of its
fields, in their order.
-/

namespace ClusterVolumes

open Codec Record

variable {room : Nat}

theorem CapacityRange.faithful : CapacityRange.record.codec.Faithful (room + 1) :=
  codec_faithful (by decide) fun _ => .of word64_faithful <| .of word64_faithful .nil

theorem Topology.faithful : Topology.record.codec.Faithful (room + 2) :=
  codec_faithful (by decide) fun _ => .of stringMap_faithful .nil

theorem TopologyRequirement.faithful : TopologyRequirement.record.codec.Faithful (room + 4) :=
  codec_faithful (by decide) fun _ => .of Topology.faithful.list <| .of Topology.faithful.list .nil

namespace Csi

/-! ## Capabilities -/

theorem AccessMode.faithful : AccessMode.codec.Faithful room :=
  constant_faithful fun a => by cases a <;> exact ⟨_, rfl, rfl⟩

theorem ControllerCapability.faithful : ControllerCapability.codec.Faithful room :=
  constant_faithful fun a => by cases a <;> exact ⟨_, rfl, rfl⟩

theorem NodeCapability.faithful : NodeCapability.codec.Faithful room :=
  constant_faithful fun a => by cases a <;> exact ⟨_, rfl, rfl⟩

theorem PluginCapability.faithful : PluginCapability.codec.Faithful room :=
  constant_faithful fun a => by cases a <;> exact ⟨_, rfl, rfl⟩

theorem UsageUnit.faithful : UsageUnit.codec.Faithful room :=
  constant_faithful fun a => by cases a <;> exact ⟨_, rfl, rfl⟩

theorem VolumeAccessMode.faithful : VolumeAccessMode.record.codec.Faithful (room + 1) :=
  codec_faithful (by decide) fun _ => .of AccessMode.faithful .nil

theorem MountVolume.faithful : MountVolume.record.codec.Faithful (room + 2) :=
  codec_faithful (by decide) fun _ => .of text_faithful <| .of text_faithful.list .nil

theorem BlockVolume.faithful : BlockVolume.record.codec.Faithful (room + 1) :=
  codec_faithful (by decide) fun _ => .nil

theorem VolumeCapability.faithful : VolumeCapability.record.codec.Faithful (room + 3) :=
  codec_faithful (by decide) fun _ => .of VolumeAccessMode.faithful <|
    .optional MountVolume.faithful encode_ne_null rfl <| .optional BlockVolume.faithful encode_ne_null rfl .nil

/-! ## Messages -/

theorem Volume.faithful : Volume.record.codec.Faithful (room + 4) :=
  codec_faithful (by decide) fun _ => .of word64_faithful <| .of text_faithful <| .of stringMap_faithful <|
    .of Topology.faithful.list .nil

theorem GetPluginInfoResponse.faithful : GetPluginInfoResponse.record.codec.Faithful (room + 2) :=
  codec_faithful (by decide) fun _ => .of text_faithful <| .of text_faithful <| .of stringMap_faithful .nil

theorem GetPluginCapabilitiesResponse.faithful : GetPluginCapabilitiesResponse.record.codec.Faithful (room + 2) :=
  codec_faithful (by decide) fun _ => .of PluginCapability.faithful.list .nil

theorem ProbeResponse.faithful : ProbeResponse.record.codec.Faithful (room + 1) :=
  codec_faithful (by decide) fun _ => .of bool_faithful .nil

theorem NoContent.faithful : NoContent.record.codec.Faithful (room + 1) :=
  codec_faithful (by decide) fun _ => .nil

theorem CreateVolumeRequest.faithful : CreateVolumeRequest.record.codec.Faithful (room + 5) :=
  codec_faithful (by decide) fun _ => .of text_faithful <| .of (CapacityRange.faithful.option encode_ne_null) <|
    .of VolumeCapability.faithful.list <| .of stringMap_faithful <|
      .of (TopologyRequirement.faithful.option encode_ne_null) .nil

theorem CreateVolumeResponse.faithful : CreateVolumeResponse.record.codec.Faithful (room + 5) :=
  codec_faithful (by decide) fun _ => .of Volume.faithful .nil

theorem DeleteVolumeRequest.faithful : DeleteVolumeRequest.record.codec.Faithful (room + 1) :=
  codec_faithful (by decide) fun _ => .of text_faithful .nil

theorem ControllerPublishVolumeRequest.faithful : ControllerPublishVolumeRequest.record.codec.Faithful (room + 4) :=
  codec_faithful (by decide) fun _ => .of text_faithful <| .of text_faithful <|
    .of (VolumeCapability.faithful.option encode_ne_null) <| .of bool_faithful <| .of stringMap_faithful .nil

theorem ControllerPublishVolumeResponse.faithful : ControllerPublishVolumeResponse.record.codec.Faithful (room + 2) :=
  codec_faithful (by decide) fun _ => .of stringMap_faithful .nil

theorem ControllerUnpublishVolumeRequest.faithful :
    ControllerUnpublishVolumeRequest.record.codec.Faithful (room + 1) :=
  codec_faithful (by decide) fun _ => .of text_faithful <| .of text_faithful .nil

theorem GetCapacityRequest.faithful : GetCapacityRequest.record.codec.Faithful (room + 5) :=
  codec_faithful (by decide) fun _ => .of VolumeCapability.faithful.list <| .of stringMap_faithful <|
    .of (Topology.faithful.option encode_ne_null) .nil

theorem GetCapacityResponse.faithful : GetCapacityResponse.record.codec.Faithful (room + 1) :=
  codec_faithful (by decide) fun _ => .of word64_faithful .nil

theorem ControllerGetCapabilitiesResponse.faithful :
    ControllerGetCapabilitiesResponse.record.codec.Faithful (room + 2) :=
  codec_faithful (by decide) fun _ => .of ControllerCapability.faithful.list .nil

theorem NodeStageVolumeRequest.faithful : NodeStageVolumeRequest.record.codec.Faithful (room + 4) :=
  codec_faithful (by decide) fun _ => .of text_faithful <| .of stringMap_faithful <| .of text_faithful <|
    .of (VolumeCapability.faithful.option encode_ne_null) <| .of stringMap_faithful .nil

theorem NodeUnstageVolumeRequest.faithful : NodeUnstageVolumeRequest.record.codec.Faithful (room + 1) :=
  codec_faithful (by decide) fun _ => .of text_faithful <| .of text_faithful .nil

theorem NodePublishVolumeRequest.faithful : NodePublishVolumeRequest.record.codec.Faithful (room + 4) :=
  codec_faithful (by decide) fun _ => .of text_faithful <| .of stringMap_faithful <| .of text_faithful <|
    .of text_faithful <| .of (VolumeCapability.faithful.option encode_ne_null) <| .of bool_faithful <|
      .of stringMap_faithful .nil

theorem NodeUnpublishVolumeRequest.faithful : NodeUnpublishVolumeRequest.record.codec.Faithful (room + 1) :=
  codec_faithful (by decide) fun _ => .of text_faithful <| .of text_faithful .nil

theorem NodeGetVolumeStatsRequest.faithful : NodeGetVolumeStatsRequest.record.codec.Faithful (room + 1) :=
  codec_faithful (by decide) fun _ => .of text_faithful <| .of text_faithful <| .of text_faithful .nil

theorem VolumeUsage.faithful : VolumeUsage.record.codec.Faithful (room + 1) :=
  codec_faithful (by decide) fun _ => .of word64_faithful <| .of word64_faithful <| .of word64_faithful <|
    .of UsageUnit.faithful .nil

theorem NodeGetVolumeStatsResponse.faithful : NodeGetVolumeStatsResponse.record.codec.Faithful (room + 3) :=
  codec_faithful (by decide) fun _ => .of VolumeUsage.faithful.list .nil

theorem NodeExpandVolumeRequest.faithful : NodeExpandVolumeRequest.record.codec.Faithful (room + 4) :=
  codec_faithful (by decide) fun _ => .of text_faithful <| .of text_faithful <|
    .of (CapacityRange.faithful.option encode_ne_null) <| .of text_faithful <|
      .of (VolumeCapability.faithful.option encode_ne_null) .nil

theorem NodeExpandVolumeResponse.faithful : NodeExpandVolumeResponse.record.codec.Faithful (room + 1) :=
  codec_faithful (by decide) fun _ => .of word64_faithful .nil

theorem NodeGetInfoResponse.faithful : NodeGetInfoResponse.record.codec.Faithful (room + 3) :=
  codec_faithful (by decide) fun _ => .of text_faithful <| .of word64_faithful <|
    .of (Topology.faithful.option encode_ne_null) .nil

theorem NodeGetCapabilitiesResponse.faithful : NodeGetCapabilitiesResponse.record.codec.Faithful (room + 2) :=
  codec_faithful (by decide) fun _ => .of NodeCapability.faithful.list .nil

end Csi

/-! ## Reports of clusters -/

namespace Hypervisor

theorem flag_faithful : flag.Faithful room :=
  ⟨fun _ => rfl, fun _ => rfl⟩

theorem ApiVersion.faithful : ApiVersion.record.codec.Faithful (room + 1) :=
  codec_faithful (by decide) fun _ => .must text_faithful <| .of text_faithful .nil

theorem ClusterMember.faithful : ClusterMember.record.codec.Faithful (room + 1) :=
  codec_faithful (by decide) fun _ => .must text_faithful <| .must text_faithful <| .of flag_faithful .nil

theorem ClusterResource.faithful : ClusterResource.record.codec.Faithful (room + 1) :=
  codec_faithful (by decide) fun _ => .must text_faithful <| .must text_faithful <| .of text_faithful <|
    .of (text_faithful.option nofun) <| .of (word32_faithful.option nofun) <| .of (text_faithful.option nofun) <|
      .of (text_faithful.option nofun) <| .of flag_faithful .nil

theorem StorageStatus.faithful : StorageStatus.record.codec.Faithful (room + 1) :=
  codec_faithful (by decide) fun _ => .of word64_faithful <| .of word64_faithful <| .of word64_faithful <|
    .of flag_faithful <| .of flag_faithful <| .of text_faithful .nil

theorem StorageVolume.faithful : StorageVolume.record.codec.Faithful (room + 1) :=
  codec_faithful (by decide) fun _ => .must text_faithful <| .of word64_faithful <| .of text_faithful <|
    .of (word32_faithful.option nofun) .nil

theorem TaskStatus.faithful : TaskStatus.record.codec.Faithful (room + 1) :=
  codec_faithful (by decide) fun _ => .must text_faithful <| .of (text_faithful.option nofun) .nil

end Hypervisor

end ClusterVolumes
