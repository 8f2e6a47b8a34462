import ClusterVolumes.Proofs.Device.Lookup
import ClusterVolumes.Proofs.Provisioning.VolumeContext

/-!
# Device paths from the making of a volume to its node

When a volume is made, its device path is recorded in its context; when it is attached under any of its ids, the node is
told that path, recorded or made anew (`attachVolume_tells`, `devicePathFor_known`); and the node finds the disk by the
number in the path. `device_paths_agree` puts the three together.

The number that a device shows may stand there without the mark `naa.`, the path of the system's devices is read as a
pattern, and only block devices whose names are texts count: for each of these there is a tree in
`resolve_takes_unmarked` in which the disk with the mark is not found.
-/

namespace ClusterVolumes.Provisioning

open Csi Service

/-! ## Attaching -/

/-- Whatever the collaborators answer, the node is told the device path that the context and the handle give. -/
theorem attachVolume_tells {κ σ : Type} {E : Environment collaborators σ} (fleet : Fleet κ)
    (request : ControllerPublishVolumeRequest) (s : σ) :
    Ensures E (fun _ _ => True) (attachVolume fleet request)
      (fun told _ => ∃ v, VolumeHandle.parseLegacy request.volumeId = .ok v ∧
        told.publishContext.get? publishDevicePath = some (devicePathFor request.volumeContext v))
      (fun _ _ => True) s := by
  unfold attachVolume
  refine ensures_unless (fun _ => trivial) fun _ => ?_
  refine ensures_unless (fun _ => trivial) fun _ => ?_
  refine ensures_unless (fun _ => trivial) fun _ => ?_
  refine ensures_unless (fun _ => trivial) fun _ => ?_
  refine ensures_bind.mpr (ensures_ofExcept.mpr ?_)
  cases hread : VolumeHandle.parseLegacy request.volumeId with
  | error f => trivial
  | ok v =>
    refine ensures_bind.mpr (ensures_trivial.post (fun _ t _ => ?_) fun _ _ h => h)
    refine ensures_bind.mpr (ensures_trivial.post (fun machine t _ => ?_) fun _ _ h => h)
    cases machine with
    | none => trivial
    | some m => exact ⟨v, rfl, by simp [TextMap.ofList, TextMap.get?_insert]⟩

/-- The device path of a volume is recorded in its context. -/
theorem recorded_context (plan : Plan) (v : VolumeHandle) :
    (responseFor plan v).volume.volumeContext.get? contextDevicePath = some v.devicePath := by
  simp [responseFor, TextMap.get?_insert]

/-- The path that is told is the one of the volume, whether the recorded context comes along or none. -/
theorem devicePathFor_known {context recorded : StringMap} {v w : VolumeHandle} (same : w.devicePath = v.devicePath)
    (known : recorded.get? contextDevicePath = some v.devicePath)
    (given : context = recorded ∨ context.get? contextDevicePath = none) :
    devicePathFor context w = v.devicePath := by
  unfold devicePathFor
  rcases given with rfl | none
  · have nonempty : v.devicePath.isEmpty = false := by
      rw [← VolumeHandle.isEmpty_toList, VolumeHandle.devicePath, String.toList_append]
      rfl
    rw [known, Option.filter_some_pos (by rw [nonempty]; rfl), Option.getD_some]
  · rw [none, Option.filter_none, Option.getD_none, same]

/-! ## From making to use -/

/-- **One device path.** The context of a volume that is made records a path that ends in sixteen hexadecimal digits.
Unless its names hold a slash, an attachment under any of its ids that ends well tells the node this path, whether the
recorded context comes along or one without a path; the id under which it was made is one of them, unless its zone holds
a slash. And a node whose system shows exactly one disk of these digits, with or without a mark before them, in a folder
at a path without wildcards, finds the first block device of that disk behind the path. -/
theorem device_paths_agree {κ : Type} (fleet : Fleet κ) (request : CreateVolumeRequest) (past t : History)
    (response : CreateVolumeResponse) (made : (createVolume fleet request).RunsTo anyAnswers past (.ok response) t) :
    ∃ plan zone digits, planOf fleet request = .ok plan ∧
      response.volume.volumeId = (handleOf plan request.name zone).text ∧
      VolumeHandle.IsHex16 digits ∧
      response.volume.volumeContext.get? contextDevicePath = some (VolumeHandle.devicePathStart ++ digits) ∧
      ('/' ∉ zone.toList → (handleOf plan request.name zone).KnownAs response.volume.volumeId) ∧
      ('/' ∉ request.name.toList → '/' ∉ plan.region.toList → '/' ∉ plan.options.storage.toList →
        ∀ {ι : Type} (others : Fleet ι) (publish : ControllerPublishVolumeRequest) (before after : History)
          (told : ControllerPublishVolumeResponse), (handleOf plan request.name zone).KnownAs publish.volumeId →
          (publish.volumeContext = response.volume.volumeContext ∨
            publish.volumeContext.get? contextDevicePath = none) →
          (attachVolume others publish).RunsTo anyAnswers before (.ok told) after →
            told.publishContext.get? publishDevicePath = some (VolumeHandle.devicePathStart ++ digits)) ∧
      ∀ (s : Site) (finder : Device.Finder) (folder : List FileName) (name block : String),
        Pattern.Plain finder.sysfs.toList → s.files.place (Device.devicesPath finder.sysfs) = .ok folder →
        Device.ShowsDisk s.files folder ["", Device.numberStart] digits name block →
        (∀ name' block', Device.ShowsDisk s.files folder ["", Device.numberStart] digits name' block' → name' = name) →
          Site.run (Device.resolve finder (VolumeHandle.devicePathStart ++ digits)) s =
            (.ok ("/dev/" ++ block), s) := by
  obtain ⟨plan, zone, planned, rfl⟩ := (createVolume_responds fleet request past).runsTo_ok made
  have recorded := recorded_context plan (handleOf plan request.name zone)
  refine ⟨plan, zone, VolumeHandle.hex16 (VolumeHandle.digest (handleOf plan request.name zone).disk.toUTF8.toList),
    planned, rfl, VolumeHandle.isHex16_hex16 _, recorded, VolumeHandle.KnownAs.text, ?_, ?_⟩
  · intro name region storage ι others publish before after told known given attached
    obtain ⟨w, read, tells⟩ := (attachVolume_tells others publish before).runsTo_ok attached
    have same := VolumeHandle.devicePath_of_knownAs region storage known read
    exact tells.trans (congrArg some (devicePathFor_known same recorded given))
  · intro s finder folder name block plain found shown only
    have hex := (VolumeHandle.isHex16_hex16
      (VolumeHandle.digest (handleOf plan request.name zone).disk.toUTF8.toList)).digit
    exact Device.run_resolve (Device.findByNumber_of_unique plain hex found shown only)

namespace Uneven

/-- The digits in the device path of the volume on the second node. -/
def digits : String := "bbedca3abefcc6ab"

/-- A device as a system shows it. -/
def device (wwid block : String) : FileTree :=
  .folder [("block", .folder [(block, .folder [])]), ("vendor", .file "QEMU    \n"), ("wwid", .file wwid)]

/-- A node whose system shows devices below a folder. -/
def showing (top : String) (devices : List (FileName × FileTree)) : Site where
  files := .folder [(top, .folder [("bus", .folder [("scsi", .folder [("devices", .folder devices)])])])]

/-- A node with another disk, the disk of the volume with its digits in capital letters, and a host of that number. -/
def node : Site :=
  showing "sys" [("0:0:0:0", device "naa.0123456789abcdef" "sda"), ("0:0:0:1", device "naa.BBEDCA3ABEFCC6AB\n" "sdb"),
    ("host0", device "naa.bbedca3abefcc6ab" "sdc")]

/-- The folder of the devices. -/
def devices : List FileName := ["sys", "bus", "scsi", "devices"]

/-- The region with a machine. -/
def inhabited : Site where
  clusters := Keyed.empty.put "r1" (some { machines := [{ kind := "qemu", vmid := some 101, name := some "vm-a" }] })

/-- The attachment of the volume under its id on another node, without its context. -/
def attaching : ControllerPublishVolumeRequest where
  volumeId := "r1/z9/data/vm-9999-pvc-1"
  nodeId := "vm-a"
  volumeCapability := some {}

theorem devicePath_handle : handle.devicePath = VolumeHandle.devicePathStart ++ digits := by
  decide +kernel

theorem devicesPaths : Device.devicesPath "/sys" = "/sys/bus/scsi/devices" ∧
    Device.devicesPath "/s[1]" = "/s[1]/bus/scsi/devices" := by
  decide +kernel

theorem digits_hex : ∀ c ∈ digits.toList, c ∈ VolumeHandle.hexDigits := by
  have all : digits.toList.all (fun c => c ∈ VolumeHandle.hexDigits) = true := by decide
  exact fun c hc => of_decide_eq_true (List.all_eq_true.mp all c hc)

theorem place_devices : node.files.place (Device.devicesPath "/sys") = .ok devices := by
  rw [devicesPaths.1]
  refine Pattern.place_eq_ok_iff.mpr ⟨?_, ?_, ?_, eq_ok_of_toOption ?_⟩ <;> decide

/-- The only block device of a device is the first one. -/
theorem first_block (block : String) : Device.IsFirstName [(.text block, .folder [])] block := by
  refine ⟨⟨_, List.mem_singleton_self _⟩, fun other t mem => ?_⟩
  cases List.mem_singleton.mp mem
  exact List.le_refl _

theorem node_shows : Device.ShowsDisk node.files devices ["", Device.numberStart] digits "0:0:0:1" "sdb" where
  address := by decide
  vendor := by decide
  number := ⟨"naa.", by decide, "BBEDCA3ABEFCC6AB", by decide, by decide⟩
  block := ⟨_, rfl, first_block "sdb"⟩

/-- No other device of the node is a disk of these digits. -/
theorem node_shows_only (name block : String)
    (h : Device.ShowsDisk node.files devices ["", Device.numberStart] digits name block) : name = "0:0:0:1" := by
  have entry : name ∈ ["0:0:0:0", "0:0:0:1", "host0"] := h.name_mem rfl
  simp only [List.mem_cons, List.not_mem_nil, or_false] at entry
  rcases entry with rfl | rfl | rfl
  · have other : Device.hasNumber node.files (devices ++ [.text "0:0:0:0"]) digits = false := by decide
    have own := (Device.hasNumber_iff digits_hex).mpr ⟨h.address, h.vendor, h.number⟩
    exact absurd own (by simp [other])
  · rfl
  · exact absurd h.address (by decide)

theorem attaches : ∃ told, (Site.run (attachVolume fleet attaching) inhabited).1 = .ok told := by
  have ends : (Site.run (attachVolume fleet attaching) inhabited).1.isOk = true := by decide
  cases h : (Site.run (attachVolume fleet attaching) inhabited).1 with
  | error f => rw [h] at ends; cases ends
  | ok told => exact ⟨told, rfl⟩

/-- The handle of the volume on another node. -/
theorem rehomed {plan : Plan} (h : planOf fleet request = .ok plan) :
    handleOf plan "pvc-1" "z9" = ⟨"r1", "z9", "data", "vm-9999-pvc-1"⟩ := by
  have read : (planOf fleet request).toOption.map (fun p => handleOf p "pvc-1" "z9") =
      some ⟨"r1", "z9", "data", "vm-9999-pvc-1"⟩ := by decide
  rw [h] at read
  exact Option.some.inj read

/-- The device path of the volume is recorded. -/
theorem records {response : CreateVolumeResponse} {past t : History}
    (made : (createVolume fleet request).RunsTo anyAnswers past (.ok response) t) :
    response.volume.volumeContext.get? contextDevicePath = some handle.devicePath := by
  obtain ⟨plan, zone, planned, rfl⟩ := (createVolume_responds fleet request past).runsTo_ok made
  have disk : (handleOf plan "pvc-1" zone).disk = handle.disk := (VolumeHandle.mk.inj (rehomed planned)).2.2.2
  have path : (handleOf plan "pvc-1" zone).devicePath = handle.devicePath := by
    rw [VolumeHandle.devicePath, VolumeHandle.devicePath, disk]
  rw [← path]
  exact recorded_context _ _

end Uneven

/-- The path of the volume on the second node is told under an id on another node, and is found on a node. -/
theorem device_paths_agree_uneven : ∃ told,
    (Site.run (attachVolume Uneven.fleet Uneven.attaching) Uneven.inhabited).1 = .ok told ∧
      told.publishContext.get? publishDevicePath = some Uneven.handle.devicePath ∧
      Site.run (Device.resolve { sysfs := "/sys" } Uneven.handle.devicePath) Uneven.node =
        (.ok "/dev/sdb", Uneven.node) := by
  obtain ⟨response, hok, hid⟩ := Uneven.creates
  have made := hok ▸ Site.runsTo_exchanges (createVolume Uneven.fleet Uneven.request) Uneven.site
  obtain ⟨plan, zone, digits, planned, -, -, recorded, -, tells, finds⟩ := device_paths_agree _ _ _ _ _ made
  obtain rfl : digits = Uneven.digits := by
    have same := congrArg String.toList (Option.some.inj (recorded.symm.trans (Uneven.records made)))
    rw [Uneven.devicePath_handle, String.toList_append, String.toList_append] at same
    exact String.toList_injective (List.append_cancel_left same)
  obtain ⟨region, -, storage, -⟩ := VolumeHandle.mk.inj (Uneven.rehomed planned)
  have known : (handleOf plan "pvc-1" zone).KnownAs Uneven.attaching.volumeId := by
    have id : (handleOf plan "pvc-1" "z9").text = Uneven.attaching.volumeId := by
      rw [Uneven.rehomed planned]
      decide
    rw [← id]
    exact VolumeHandle.KnownAs.text (by decide)
  obtain ⟨told, htold⟩ := Uneven.attaches
  have attached := htold ▸ Site.runsTo_exchanges (attachVolume Uneven.fleet Uneven.attaching) Uneven.inhabited
  rw [Uneven.devicePath_handle]
  refine ⟨told, htold, ?_, ?_⟩
  · refine tells (by decide) ?_ ?_ _ _ _ _ _ known (Or.inr rfl) attached
    · rw [region]
      decide
    · rw [storage]
      decide
  · exact finds Uneven.node { sysfs := "/sys" } Uneven.devices "0:0:0:1" "sdb" (by decide)
      Uneven.place_devices Uneven.node_shows Uneven.node_shows_only

namespace Uneven

/-- A node with two disks of the digits, of which only the second has the mark before them. -/
def unmarked : Site :=
  showing "sys" [("0:0:0:0", device "bbedca3abefcc6ab" "sda"), ("0:0:0:1", device "naa.bbedca3abefcc6ab" "sdb")]

/-- A node whose system is below a folder that is no plain name in a pattern. -/
def bracketed : Site :=
  showing "s[1]" [("0:0:0:0", device "naa.bbedca3abefcc6ab" "sda")]

theorem place_bracketed :
    bracketed.files.place (Device.devicesPath "/s[1]") = .ok ["s[1]", "bus", "scsi", "devices"] := by
  rw [devicesPaths.2]
  refine Pattern.place_eq_ok_iff.mpr ⟨?_, ?_, ?_, eq_ok_of_toOption ?_⟩ <;> decide

/-- A folder in which no name is a text. -/
def untold : FileTree :=
  .folder [(.bytes [0xff] (by decide), .folder [])]

/-- A node with one disk of the digits, whose only block device has such a name. -/
def unnamed : Site :=
  showing "sys" [("0:0:0:0",
    .folder [("block", untold), ("vendor", .file "QEMU    \n"), ("wwid", .file "naa.bbedca3abefcc6ab")])]

/-- Nothing stands at the device path of the volume. -/
theorem absent_bracketed : bracketed.files.existsAt (VolumeHandle.devicePathStart ++ digits) = false :=
  Pattern.existsAt_of_lost (by decide)

theorem absent_unnamed : unnamed.files.existsAt (VolumeHandle.devicePathStart ++ digits) = false :=
  Pattern.existsAt_of_lost (by decide)

end Uneven

/-- A node shows exactly one disk with the mark before the digits, and another disk is found, because its digits stand
there without the mark. Where the path of the system has a wildcard, the only disk is not found, and neither is one whose
block devices have names in which no text is written. -/
theorem resolve_takes_unmarked :
    (Device.ShowsDisk Uneven.unmarked.files Uneven.devices [Device.numberStart] Uneven.digits "0:0:0:1" "sdb" ∧
      (∀ name block,
        Device.ShowsDisk Uneven.unmarked.files Uneven.devices [Device.numberStart] Uneven.digits name block →
          name = "0:0:0:1") ∧
      (Site.run (Device.resolve { sysfs := "/sys" } Uneven.handle.devicePath) Uneven.unmarked).1.toOption =
        some "/dev/sda") ∧
      Uneven.bracketed.files.place (Device.devicesPath "/s[1]") = .ok ["s[1]", "bus", "scsi", "devices"] ∧
      Device.ShowsDisk Uneven.bracketed.files ["s[1]", "bus", "scsi", "devices"] [Device.numberStart] Uneven.digits
        "0:0:0:0" "sda" ∧
      (∀ name block, Device.ShowsDisk Uneven.bracketed.files ["s[1]", "bus", "scsi", "devices"] [Device.numberStart]
        Uneven.digits name block → name = "0:0:0:0") ∧
      (Site.run (Device.resolve { sysfs := "/s[1]", timeout := 0 } Uneven.handle.devicePath) Uneven.bracketed).1 =
        .error (.deviceNotFound Uneven.handle.devicePath) ∧
      Device.hasNumber Uneven.unnamed.files (Uneven.devices ++ [.text "0:0:0:0"]) Uneven.digits = true ∧
      Uneven.unnamed.files.at? (Uneven.devices ++ [.text "0:0:0:0", .text "block"]) = some Uneven.untold ∧
      (Site.run (Device.resolve { sysfs := "/sys", timeout := 0 } Uneven.handle.devicePath) Uneven.unnamed).1 =
        .error (.deviceNotFound Uneven.handle.devicePath) := by
  refine ⟨⟨⟨?_, ?_, ?_, ?_⟩, ?_, ?_⟩, Uneven.place_bracketed, ⟨?_, ?_, ?_, ?_⟩, ?_, ?_, by decide, rfl, ?_⟩
  · decide
  · decide
  · exact ⟨"naa.", by decide, "bbedca3abefcc6ab", by decide, by decide⟩
  · exact ⟨_, rfl, Uneven.first_block "sdb"⟩
  · intro name block h
    have entry : name ∈ ["0:0:0:0", "0:0:0:1"] := h.name_mem rfl
    simp only [List.mem_cons, List.not_mem_nil, or_false] at entry
    rcases entry with rfl | rfl
    · obtain ⟨beginning, hb, own, shown, -⟩ := h.number
      obtain rfl := List.mem_singleton.mp hb
      have bare : Device.attribute? Uneven.unmarked.files (Uneven.devices ++ [.text "0:0:0:0", .text "wwid"]) =
          some "bbedca3abefcc6ab" := by decide
      have same := congrArg String.toList (Option.some.inj (bare.symm.trans shown))
      rw [String.toList_append] at same
      cases same
    · rfl
  · decide +kernel
  · decide
  · decide
  · exact ⟨"naa.", by decide, "bbedca3abefcc6ab", by decide, by decide⟩
  · exact ⟨_, rfl, Uneven.first_block "sda"⟩
  · intro name block h
    have entry : name ∈ ["0:0:0:0"] := h.name_mem rfl
    exact List.mem_singleton.mp entry
  · rw [Uneven.devicePath_handle]
    exact Device.run_resolve_missing (by decide) (eq_ok_of_toOption (by decide +kernel)) Uneven.absent_bracketed
  · rw [Uneven.devicePath_handle]
    exact Device.run_resolve_missing (by decide) (eq_ok_of_toOption (by decide +kernel)) Uneven.absent_unnamed

end ClusterVolumes.Provisioning
