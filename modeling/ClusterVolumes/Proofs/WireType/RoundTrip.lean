import ClusterVolumes.Proofs.WireType.Faithful
import ClusterVolumes.Proofs.WireType.Variant

/-!
# Values that are sent and received

Every type on the wire reads what it writes: the text of a value is read as that value, and so is the text of each
variant of it. Some texts are JSON but are not read, since a reader cannot make out what it has to look at: a flag that
is a number beyond all bounds or a text without characters, or a key without characters in any object.
-/

namespace ClusterVolumes

open Csi Hypervisor

/-- Every type on the wire is faithful. -/
theorem WireType.faithful : ∀ p ∈ WireType.catalogue, p.2.codec.Faithful Codec.maxDepth := by
  rw [Codec.maxDepth]
  simp only [WireType.catalogue, List.forall_mem_cons, List.not_mem_nil, false_imp_iff, implies_true, and_true]
  exact ⟨ApiVersion.faithful, ClusterMember.faithful, ClusterResource.faithful, StorageStatus.faithful,
    StorageVolume.faithful, TaskStatus.faithful, AccessMode.faithful, VolumeAccessMode.faithful, MountVolume.faithful,
    BlockVolume.faithful, VolumeCapability.faithful, ControllerCapability.faithful, NodeCapability.faithful,
    PluginCapability.faithful, UsageUnit.faithful, CapacityRange.faithful, Topology.faithful,
    TopologyRequirement.faithful, Volume.faithful, GetPluginInfoResponse.faithful,
    GetPluginCapabilitiesResponse.faithful, ProbeResponse.faithful, NoContent.faithful, CreateVolumeRequest.faithful,
    CreateVolumeResponse.faithful, DeleteVolumeRequest.faithful, ControllerPublishVolumeRequest.faithful,
    ControllerPublishVolumeResponse.faithful, ControllerUnpublishVolumeRequest.faithful, GetCapacityRequest.faithful,
    GetCapacityResponse.faithful, ControllerGetCapabilitiesResponse.faithful, NodeStageVolumeRequest.faithful,
    NodeUnstageVolumeRequest.faithful, NodePublishVolumeRequest.faithful, NodeUnpublishVolumeRequest.faithful,
    NodeGetVolumeStatsRequest.faithful, VolumeUsage.faithful, NodeGetVolumeStatsResponse.faithful,
    NodeExpandVolumeRequest.faithful, NodeExpandVolumeResponse.faithful, NodeGetInfoResponse.faithful,
    NodeGetCapabilitiesResponse.faithful⟩

/-- **Values are read back.** The text of a value is read as the value, and so is every text of a variant of it. A flag
is read from the values that are readable and not nested too deep, as yes if the value tells of it. -/
theorem wire_values_read_back :
    (∀ p ∈ WireType.catalogue, ∀ v : p.2.Value, p.2.codec.ofText (p.2.codec.encode v).render = .ok v ∧
      ∀ s j, Json.parse? s = some j → Variant Codec.maxDepth p.2.codec (p.2.codec.encode v) j →
        p.2.codec.ofText s = .ok v) ∧
    ∀ (j : Json) (room : Nat), ((∃ b, flag.decode room j = .ok b) ↔ j.isReadable = true ∧ j.depth ≤ room) ∧
      ∀ b, flag.decode room j = .ok b → (b = true ↔ TellsTrue j) := by
  refine ⟨fun p mem v => ?_, fun j room => ⟨flag_decode_iff, fun b => flag_decode_true_iff⟩⟩
  have faithful := WireType.faithful p mem
  have read {s : String} {j : Json} (parsed : Json.parse? s = some j)
      (variant : Variant Codec.maxDepth p.2.codec (p.2.codec.encode v) j) : p.2.codec.ofText s = .ok v :=
    (Codec.ofText_of_parse? parsed).trans (variant.decode (faithful.decode v))
  exact ⟨read (Json.parse?_render (faithful.plain v)) .same, fun s j => read⟩

/-- A member of a cluster, as it may be told. -/
def toldMember (online : Json) (more : List (Option String × Json)) : Json :=
  .obj ([(some "type", .text "node"), (some "name", .text "pve-1"), (some "online", online)] ++ more)

/-- A member that is online in capital letters, with a key that is not known. -/
theorem wire_values_read_back_member :
    Json.parse? (toldMember (.text "TRUE") [(some "level", .arr [.null])]).render =
        some (toldMember (.text "TRUE") [(some "level", .arr [.null])]) ∧
      ClusterMember.record.codec.ofText (toldMember (.text "TRUE") [(some "level", .arr [.null])]).render =
        .ok ⟨"node", "pve-1", true⟩ ∧
      flag.decode 126 (.text "TRUE") = .ok true ∧ TellsTrue (.text "TRUE") := by
  have parsed := Json.parse?_render (j := toldMember (.text "TRUE") [(some "level", .arr [.null])]) (by decide)
  have yes : TellsTrue (.text "TRUE") := .word (by unfold InAnyCase; decide)
  have told : Variant 126 flag (.bool true) (.text "TRUE") := .flag rfl (Nat.zero_le _) ⟨fun _ => yes, fun _ => rfl⟩
  have variant : Variant Codec.maxDepth ClusterMember.record.codec
      (ClusterMember.record.codec.encode ⟨"node", "pve-1", true⟩)
      (toldMember (.text "TRUE") [(some "level", .arr [.null])]) :=
    .record (.same (.same (.field rfl (.of told) (.unknown (by decide) rfl .nil))))
  have member := wire_values_read_back.1 ("ClusterMember", .of ClusterMember.record.codec) (.tail _ (.head _))
  have flags := wire_values_read_back.2 (.text "TRUE") 126
  exact ⟨parsed, (member ⟨"node", "pve-1", true⟩).2 _ _ parsed variant, rfl, (flags.2 true rfl).mp rfl⟩

/-- Some members that no reader makes out: one is online to a degree beyond all bounds, one with a text without
characters, and one has such a text for a key. -/
theorem unreadable_members_refused :
    ClusterMember.record.codec.encode ⟨"node", "pve-1", true⟩ = toldMember (.bool true) [] ∧
      ∀ j ∈ [toldMember (.decimal "1e999") [], toldMember (.str none) [], toldMember (.bool true) [(none, .nat 1)]],
        (Json.parse? j.render).isSome = true ∧ j.depth ≤ Codec.maxDepth ∧
          ClusterMember.record.codec.ofText j.render = .error .notJson :=
  ⟨rfl, by decide +kernel⟩

end ClusterVolumes
