import ClusterVolumes.Hypervisor.Client
import ClusterVolumes.Proofs.Text.Decimal
import ClusterVolumes.Volume.Sizing
import Mathlib.Order.Bounds.Basic
import Mathlib.Tactic.Common

/-!
# Sizes in whole units

A size is rounded up to the least whole number of units that is enough (`isLeast_roundUp`), or down to the greatest one
that keeps to a limit (`isGreatest_roundDown`). `Sized` says which size a capacity range asks for, as a number without
bound, and `sizes_exact` that the size that is given, in 64 bits, is this number. A cluster is told of sizes in
mebibytes: `toldBytes?` is what it reads, and it reads the least whole number of mebibytes that holds the disk.
-/

namespace ClusterVolumes

/-! ## Rounding -/

/-- The sizes in whole units that hold so many bytes. -/
def sizesHolding (unit bytes : Nat) : Set Nat := {n | unit ∣ n ∧ bytes ≤ n}

/-- The sizes in whole units that keep to a limit. -/
def sizesWithin (unit limit : Nat) : Set Nat := {n | unit ∣ n ∧ n ≤ limit}

theorem isLeast_roundUp {unit : Nat} (h : 0 < unit) (bytes : Nat) :
    IsLeast (sizesHolding unit bytes) ((bytes + (unit - 1)) / unit * unit) := by
  refine ⟨⟨Nat.dvd_mul_left unit _, ?_⟩, ?_⟩
  · have next := Nat.lt_mul_div_succ (bytes + (unit - 1)) h
    rw [Nat.mul_add, Nat.mul_comm] at next
    omega
  · rintro _ ⟨⟨k, rfl⟩, enough⟩
    have few : (bytes + (unit - 1)) / unit < k + 1 := by
      rw [Nat.div_lt_iff_lt_mul h, Nat.add_mul, Nat.mul_comm k]
      omega
    rw [Nat.mul_comm unit k]
    exact Nat.mul_le_mul_right unit (Nat.le_of_lt_succ few)

theorem isGreatest_roundDown {unit : Nat} (h : 0 < unit) (limit : Nat) :
    IsGreatest (sizesWithin unit limit) (limit / unit * unit) := by
  refine ⟨⟨Nat.dvd_mul_left unit _, Nat.div_mul_le_self limit unit⟩, ?_⟩
  rintro _ ⟨⟨k, rfl⟩, kept⟩
  rw [Nat.mul_comm unit k] at kept ⊢
  exact Nat.mul_le_mul_right unit ((Nat.le_div_iff_mul_le h).mpr kept)

/-- A whole number of units holds itself. -/
theorem eq_of_isLeast_sizesHolding {unit bytes n : Nat} (least : IsLeast (sizesHolding unit bytes) n)
    (whole : unit ∣ bytes) : n = bytes :=
  Nat.le_antisymm (least.2 ⟨whole, Nat.le_refl bytes⟩) least.1.2

/-! ## The size of a volume -/

/-- A size of so many bytes is given. -/
def Gives (outcome : Except Failure UInt64) (n : Nat) : Prop :=
  ∃ size, outcome = .ok size ∧ size.toNat = n

/-- No size is given, and the caller is to blame. -/
def Refuses (outcome : Except Failure UInt64) : Prop :=
  ∃ message, outcome = .error (.invalidArgument message)

theorem refuses_invalid (message : String) : Refuses (.error (.invalidArgument message)) :=
  ⟨message, rfl⟩

theorem gives_ofNat {n : Nat} (h : n < UInt64.size) : Gives (.ok (UInt64.ofNat n)) n :=
  ⟨_, rfl, UInt64.toNat_ofNat_of_lt h⟩

theorem not_refuses_of_gives {outcome : Except Failure UInt64} {n : Nat} (h : Gives outcome n) : ¬Refuses outcome := by
  obtain ⟨size, rfl, -⟩ := h
  rintro ⟨message, refused⟩
  cases refused

/-- The size when bytes are required: the least whole number of GiB that holds them. It is refused exactly if it does not
fit in 64 bits or is above the limit. -/
def SizedUp (range : CapacityRange) (outcome : Except Failure UInt64) : Prop :=
  ∃ n, IsLeast (sizesHolding CapacityRange.gib range.requiredBytes.toNat) n ∧
    (Refuses outcome ↔ UInt64.size - 1 < n ∨ 0 < range.limitBytes.toNat ∧ range.limitBytes.toNat < n) ∧
    (¬Refuses outcome → Gives outcome n)

/-- The size when no bytes are required: 10 GiB, or the limit rounded down if that is less. It is refused exactly if the
limit is below 1 GiB. -/
structure SizedFreely (range : CapacityRange) (outcome : Except Failure UInt64) : Prop where
  refused_iff : Refuses outcome ↔ 0 < range.limitBytes.toNat ∧ range.limitBytes.toNat < CapacityRange.gib
  unlimited : range.limitBytes.toNat = 0 → Gives outcome (10 * CapacityRange.gib)
  limited : CapacityRange.gib ≤ range.limitBytes.toNat →
    ∃ n, IsGreatest (sizesWithin CapacityRange.gib range.limitBytes.toNat) n ∧
      Gives outcome (min (10 * CapacityRange.gib) n)

/-- A size in whole GiB that holds what is required and keeps to the limit, if there is one. -/
structure Fits (range : CapacityRange) (n : Nat) : Prop where
  some : 0 < n
  whole : CapacityRange.gib ∣ n
  enough : range.requiredBytes.toNat ≤ n
  kept : 0 < range.limitBytes.toNat → n ≤ range.limitBytes.toNat

/-- The outcome is the size that a capacity range asks for. -/
structure Sized (range : CapacityRange) (outcome : Except Failure UInt64) : Prop where
  required : 0 < range.requiredBytes.toNat → SizedUp range outcome
  free : range.requiredBytes.toNat = 0 → SizedFreely range outcome
  fits : ∀ size, outcome = .ok size → Fits range size.toNat

namespace CapacityRange

variable {range : CapacityRange}

theorem gib_pos : 0 < gib := by decide

/-- A refusal begins with what it is about: the limit or what is required. -/
theorem requestedSize_error {e : Failure} (h : range.requestedSize = .error e) :
    ∃ why, e = .invalidArgument ("limit of " ++ why) ∨ e = .invalidArgument ("required " ++ why) := by
  unfold requestedSize at h
  dsimp only at h
  generalize range.limitBytes.toNat / gib * gib = down at h
  generalize (range.requiredBytes.toNat + (gib - 1)) / gib * gib = up at h
  split at h
  · split at h
    · split at h
      · rw [String.append_assoc] at h
        exact ⟨_, .inl (Except.error.inj h).symm⟩
      · cases h
    · cases h
  · split at h
    · rw [String.append_assoc] at h
      exact ⟨_, .inr (Except.error.inj h).symm⟩
    · split at h
      · simp only [String.append_assoc] at h
        exact ⟨_, .inr (Except.error.inj h).symm⟩
      · cases h

/-- What is required is rounded up. -/
theorem requestedSize_sizedUp (asked : 0 < range.requiredBytes.toNat) : SizedUp range range.requestedSize := by
  have least := isLeast_roundUp gib_pos range.requiredBytes.toNat
  have bits : 0 < UInt64.size := by decide
  unfold requestedSize
  dsimp only
  rw [if_neg (by omega)]
  generalize (range.requiredBytes.toNat + (gib - 1)) / gib * gib = n at least ⊢
  refine ⟨n, least, ?_⟩
  split
  · rename_i great
    have refused := refuses_invalid
    exact ⟨⟨fun _ => .inl (by omega), fun _ => refused _⟩, fun given => absurd (refused _) given⟩
  rename_i small
  split
  · rename_i above
    have refused := refuses_invalid
    exact ⟨⟨fun _ => .inr above, fun _ => refused _⟩, fun given => absurd (refused _) given⟩
  · rename_i within
    have gives := gives_ofNat (n := n) (by omega)
    exact ⟨⟨fun refused => absurd refused (not_refuses_of_gives gives), by omega⟩, fun _ => gives⟩

/-- A limit is rounded down. -/
theorem requestedSize_sizedFreely (unasked : range.requiredBytes.toNat = 0) :
    SizedFreely range range.requestedSize := by
  have greatest := isGreatest_roundDown gib_pos range.limitBytes.toNat
  have few : gib ≤ range.limitBytes.toNat → gib ≤ range.limitBytes.toNat / gib * gib :=
    fun enough => greatest.2 ⟨Nat.dvd_refl gib, enough⟩
  have many : 10 * gib ≤ range.limitBytes.toNat → 10 * gib ≤ range.limitBytes.toNat / gib * gib :=
    fun enough => greatest.2 ⟨Nat.dvd_mul_left gib 10, enough⟩
  have bits : 10 * gib < UInt64.size := by decide
  have pos := gib_pos
  unfold requestedSize
  dsimp only
  rw [if_pos unasked, defaultSize]
  generalize range.limitBytes.toNat / gib * gib = n at greatest few many ⊢
  have kept : n ≤ range.limitBytes.toNat := greatest.1.2
  split
  · rename_i below
    split
    · rename_i none
      have refused := refuses_invalid
      exact ⟨⟨fun _ => by omega, fun _ => refused _⟩, by omega, by omega⟩
    · rename_i some
      have gives := gives_ofNat (n := n) (by omega)
      have unit : gib ≤ n := Nat.le_of_dvd (Nat.pos_of_ne_zero some) greatest.1.1
      refine ⟨⟨fun refused => absurd refused (not_refuses_of_gives gives), by omega⟩, by omega,
        fun _ => ⟨n, greatest, ?_⟩⟩
      rw [Nat.min_eq_right (by omega)]
      exact gives
  · rename_i above
    have gives := gives_ofNat bits
    refine ⟨⟨fun refused => absurd refused (not_refuses_of_gives gives), by omega⟩, fun _ => gives,
      fun _ => ⟨n, greatest, ?_⟩⟩
    rw [Nat.min_eq_left (many (by omega))]
    exact gives

end CapacityRange

/-- A size that is rounded up fits. -/
theorem SizedUp.fits {range : CapacityRange} {size : UInt64} (asked : 0 < range.requiredBytes.toNat)
    (h : SizedUp range (.ok size)) : Fits range size.toNat := by
  obtain ⟨n, least, refused, given⟩ := h
  have accepted : ¬Refuses (.ok size) := not_refuses_of_gives ⟨size, rfl, rfl⟩
  obtain ⟨_, same, rfl⟩ := given accepted
  obtain rfl := Except.ok.inj same
  have within := mt refused.mpr accepted
  exact
    { some := by have := least.1.2; omega
      whole := least.1.1
      enough := least.1.2
      kept := by omega }

/-- A size that is given freely fits. -/
theorem SizedFreely.fits {range : CapacityRange} {size : UInt64} (unasked : range.requiredBytes.toNat = 0)
    (h : SizedFreely range (.ok size)) : Fits range size.toNat := by
  have accepted : ¬Refuses (.ok size) := not_refuses_of_gives ⟨size, rfl, rfl⟩
  have pos := CapacityRange.gib_pos
  have whole : CapacityRange.gib ∣ 10 * CapacityRange.gib := Nat.dvd_mul_left _ _
  by_cases unlimited : range.limitBytes.toNat = 0
  · obtain ⟨_, same, ten⟩ := h.unlimited unlimited
    obtain rfl := Except.ok.inj same
    rw [ten]
    exact ⟨by omega, whole, by omega, by omega⟩
  · have enough : CapacityRange.gib ≤ range.limitBytes.toNat := by
      have within := mt h.refused_iff.mpr accepted
      omega
    obtain ⟨n, greatest, _, same, least⟩ := h.limited enough
    obtain rfl := Except.ok.inj same
    have unit : CapacityRange.gib ≤ n := greatest.2 ⟨Nat.dvd_refl _, enough⟩
    have kept : n ≤ range.limitBytes.toNat := greatest.1.2
    rw [least]
    refine ⟨by omega, ?_, by omega, by omega⟩
    rcases Nat.le_total (10 * CapacityRange.gib) n with less | less
    · rw [Nat.min_eq_left less]
      exact whole
    · rw [Nat.min_eq_right less]
      exact greatest.1.1

theorem CapacityRange.requestedSize_sized (range : CapacityRange) : Sized range range.requestedSize where
  required := requestedSize_sizedUp
  free := requestedSize_sizedFreely
  fits := by
    intro size given
    rcases Nat.eq_zero_or_pos range.requiredBytes.toNat with unasked | asked
    · exact SizedFreely.fits unasked (given ▸ requestedSize_sizedFreely unasked)
    · exact SizedUp.fits asked (given ▸ requestedSize_sizedUp asked)

/-! ## Words of 64 bits -/

namespace CapacityRange

/-- One GiB as a word. -/
def gibWord : UInt64 := 1073741824

/-- The same size in words of 64 bits, whose sums and products wrap around. Only the product that is rounded up is looked
at before it is taken. -/
def sizeInWords (range : CapacityRange) : Except Failure UInt64 :=
  if range.requiredBytes = 0 then
    if 0 < range.limitBytes ∧ range.limitBytes < 10 * gibWord then
      let size := range.limitBytes / gibWord * gibWord
      if size = 0 then
        .error (.invalidArgument
          ("limit of " ++ toString range.limitBytes.toNat ++ " bytes is below the 1GiB allocation unit"))
      else .ok size
    else .ok (10 * gibWord)
  else
    let units := range.requiredBytes / gibWord + (if 0 < range.requiredBytes % gibWord then 1 else 0)
    if units.toNat * gibWord.toNat ≥ UInt64.size then
      .error (.invalidArgument ("required " ++ toString range.requiredBytes.toNat ++ " bytes is too large"))
    else
      let size := units * gibWord
      if 0 < range.limitBytes ∧ range.limitBytes < size then
        .error (.invalidArgument
          ("required " ++ toString range.requiredBytes.toNat ++ " bytes rounds up to " ++ toString size.toNat ++
          " bytes, above the limit of " ++ toString range.limitBytes.toNat))
      else .ok size

/-- Rounding up in words, a quotient and one more if there is a rest. -/
theorem toNat_roundUp (n : UInt64) :
    (n / gibWord + (if 0 < n % gibWord then 1 else 0)).toNat = (n.toNat + (gib - 1)) / gib := by
  have bound := n.toNat_lt
  have unit : gibWord.toNat = 1073741824 := rfl
  have nat : gib = 1073741824 := rfl
  rw [UInt64.toNat_add, UInt64.toNat_div, nat, unit]
  split
  · rename_i rest
    rw [UInt64.lt_iff_toNat_lt, UInt64.toNat_mod, unit] at rest
    simp only [UInt64.toNat_zero, UInt64.toNat_one] at rest ⊢
    omega
  · rename_i rest
    rw [UInt64.lt_iff_toNat_lt, UInt64.toNat_mod, unit] at rest
    simp only [UInt64.toNat_zero] at rest ⊢
    omega

/-- A limit that is rounded down in words. -/
theorem toNat_roundDown (n : UInt64) : (n / gibWord * gibWord).toNat = n.toNat / gib * gib := by
  have unit : gibWord.toNat = gib := rfl
  rw [UInt64.toNat_mul, UInt64.toNat_div, unit, Nat.mod_eq_of_lt]
  exact (Nat.div_mul_le_self n.toNat gib).trans_lt n.toNat_lt

/-- Nothing wraps around. -/
theorem requestedSize_eq_sizeInWords (range : CapacityRange) : range.requestedSize = range.sizeInWords := by
  have unit : gibWord.toNat = gib := rfl
  have ten : (10 * gibWord).toNat = defaultSize := rfl
  have zero : (0 : UInt64).toNat = 0 := rfl
  unfold requestedSize sizeInWords
  dsimp only
  by_cases unasked : range.requiredBytes.toNat = 0
  · have word : range.requiredBytes = 0 := UInt64.toNat_inj.mp unasked
    rw [if_pos unasked, if_pos word, ← toNat_roundDown, ← ten, UInt64.ofNat_toNat, UInt64.ofNat_toNat]
    simp only [UInt64.lt_iff_toNat_lt, ← UInt64.toNat_inj, zero]
  · have word : ¬range.requiredBytes = 0 := fun none => unasked (congrArg UInt64.toNat none)
    rw [if_neg unasked, if_neg word, toNat_roundUp, unit]
    split
    · rfl
    rename_i small
    have product : (range.requiredBytes.toNat + (gib - 1)) / gib * gib =
        ((range.requiredBytes / gibWord + (if 0 < range.requiredBytes % gibWord then 1 else 0)) * gibWord).toNat := by
      rw [UInt64.toNat_mul, toNat_roundUp, unit, Nat.mod_eq_of_lt (Nat.lt_of_not_le small)]
    rw [product, UInt64.ofNat_toNat]
    simp only [UInt64.lt_iff_toNat_lt, zero]

end CapacityRange

/-! ## The size that a cluster is told -/

namespace Hypervisor

/-- One MiB in bytes. -/
def mib : Nat := 1024 * 1024

/-- How many bytes a cluster is told of by a number of mebibytes: decimal digits with an `M` behind them. -/
def toldBytes? (text : String) : Option Nat :=
  match Text.cutFirst 'M' text.toList with
  | some (digits, []) => (Text.readNat? digits).map (· * mib)
  | _ => none

theorem toldBytes?_toString (n : Nat) : toldBytes? (toString n ++ "M") = some (n * mib) := by
  have text : (toString n ++ "M").toList = Nat.toDigits 10 n ++ ['M'] := by
    rw [String.toList_append, Text.toList_toString]
    rfl
  have digits : 'M' ∉ Nat.toDigits 10 n := by
    intro mem
    have digit := Nat.isDigit_of_mem_toDigits (b := 10) (by decide) (by decide) mem
    exact absurd digit (by decide)
  have cut : Text.cutFirst 'M' (Nat.toDigits 10 n ++ ['M']) = some (Nat.toDigits 10 n, []) :=
    Text.cutFirst_eq_some_iff.mpr ⟨rfl, digits⟩
  unfold toldBytes?
  rw [text, cut]
  simp only [Text.readNat?_toDigits, Option.map_some]

theorem toldBytes?_mebibytes (bytes : UInt64) :
    toldBytes? (mebibytes bytes) = some ((bytes.toNat + (mib - 1)) / mib * mib) :=
  toldBytes?_toString _

/-- The size in the form that is sent for a new disk. -/
theorem createDisk_size (node storage : String) (disk : DiskRequest) :
    (Request.createDisk node storage disk).wire.2.2.filter (fun field => field.1 = "size") =
      [("size", mebibytes disk.sizeBytes)] := by
  cases h : disk.format <;> simp [Request.wire, h]

end Hypervisor

/-- **Sizes.** The size that is given for a capacity range is the one that it asks for, and to compute it in words of 64
bits comes to the same; without a range it is that of a range that asks for nothing. A cluster that is asked for a disk is
told one size, and reads it as the least whole number of mebibytes that holds the disk. For a size that was given, this
is that very size. -/
theorem sizes_exact (range : CapacityRange) :
    Sized range (requestedSize (some range)) ∧ requestedSize (some range) = range.sizeInWords ∧
      requestedSize none = requestedSize (some { requiredBytes := 0, limitBytes := 0 }) ∧
      ∀ (node storage : String) (disk : Hypervisor.DiskRequest), ∃ text n,
        ((Hypervisor.Request.createDisk node storage disk).wire.2.2.filter fun field => field.1 = "size") =
            [("size", text)] ∧
          Hypervisor.toldBytes? text = some n ∧ IsLeast (sizesHolding Hypervisor.mib disk.sizeBytes.toNat) n ∧
          (requestedSize (some range) = .ok disk.sizeBytes → n = disk.sizeBytes.toNat) := by
  have sized := CapacityRange.requestedSize_sized range
  refine ⟨sized, CapacityRange.requestedSize_eq_sizeInWords range, rfl, fun node storage disk => ?_⟩
  have some : 0 < Hypervisor.mib := by decide
  have least := isLeast_roundUp some disk.sizeBytes.toNat
  refine ⟨_, _, Hypervisor.createDisk_size node storage disk, Hypervisor.toldBytes?_mebibytes disk.sizeBytes, least, ?_⟩
  intro given
  have units : Hypervisor.mib ∣ CapacityRange.gib := by decide
  exact eq_of_isLeast_sizesHolding least (Nat.dvd_trans units (sized.fits _ given).whole)

end ClusterVolumes
