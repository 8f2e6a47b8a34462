import ClusterVolumes.Proofs.Volume.HandleText
import Mathlib.Tactic.Common

/-!
# Device paths of volumes

A device path ends in sixteen hexadecimal digits (`VolumeHandle.isHex16_hex16`) that hang on the name of the disk alone.
So each id under which a volume is known, in whatever zone and also in the older form, is read as a handle with the same
device path: `VolumeHandle.devicePath_of_knownAs`.
-/

namespace ClusterVolumes

namespace VolumeHandle

/-! ## Hexadecimal digits -/

/-- The digits of hexadecimal numbers in lower case. -/
def hexDigits : List Char := "0123456789abcdef".toList

theorem digitChar_mem_hexDigits {n : Nat} (h : n < 16) : Nat.digitChar n ∈ hexDigits := by
  revert n
  decide

theorem mem_hexDigits_of_mem_toDigits {n : Nat} {c : Char} (h : c ∈ Nat.toDigits 16 n) : c ∈ hexDigits := by
  induction n using Nat.strongRecOn with
  | _ n ih =>
    rw [Nat.toDigits_eq_if (by decide)] at h
    split at h
    · rename_i small
      obtain rfl := List.mem_singleton.mp h
      exact digitChar_mem_hexDigits small
    · rcases List.mem_append.mp h with h | h
      · exact ih (n / 16) (by omega) h
      · obtain rfl := List.mem_singleton.mp h
        exact digitChar_mem_hexDigits (Nat.mod_lt n (by decide))

/-- A text of sixteen hexadecimal digits in lower case. -/
structure IsHex16 (digits : String) : Prop where
  length : digits.length = 16
  digit : ∀ c ∈ digits.toList, c ∈ hexDigits

theorem isHex16_hex16 (n : UInt64) : IsHex16 (hex16 n) := by
  have short : (Nat.toDigits 16 n.toNat).length ≤ 16 :=
    (Nat.length_toDigits_le_iff (by decide) (by decide)).mpr (n.toNat_lt_size)
  constructor
  · rw [hex16, String.length_ofList]
    simp only [List.length_append, List.length_replicate]
    omega
  · intro c hc
    simp only [hex16, String.toList_ofList, List.mem_append, List.mem_replicate] at hc
    rcases hc with ⟨-, rfl⟩ | hc
    · decide
    · exact mem_hexDigits_of_mem_toDigits hc

/-! ## Ids of a volume -/

/-- The ids under which a volume is known: the text of its handle in any zone, and, if its disk lies in no folder, the
older form without a storage. -/
inductive KnownAs (v : VolumeHandle) : String → Prop
  | text {zone : String} (free : '/' ∉ zone.toList) : KnownAs v { v with zone := zone }.text
  | older {zone : String} (free : '/' ∉ zone.toList) (plain : '/' ∉ v.disk.toList) :
      KnownAs v (v.region ++ "/" ++ zone ++ "/" ++ v.disk)

variable {v w : VolumeHandle} {id : String}

/-- **One device path for all ids.** Whatever id of a volume is read, the device path is the same. -/
theorem devicePath_of_knownAs (hr : '/' ∉ v.region.toList) (hs : '/' ∉ v.storage.toList) (known : KnownAs v id)
    (h : parseLegacy id = .ok w) : w.devicePath = v.devicePath := by
  cases known with
  | @text zone free =>
    rw [parseLegacy_text] at h
    have parts : SlashFree { v with zone := zone } := ⟨hr, free, hs⟩
    rw [parse_text parts h]
    rfl
  | older free plain =>
    rw [parseLegacy_older hr free plain] at h
    split at h
    · cases h
    · cases h
      rfl

end VolumeHandle

end ClusterVolumes
