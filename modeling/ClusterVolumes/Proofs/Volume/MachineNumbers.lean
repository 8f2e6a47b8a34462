import ClusterVolumes.Proofs.Text.Pattern
import ClusterVolumes.Proofs.Volume.Naming

/-!
# Machine numbers in names

The machine number in the name of a disk is what the pattern `(^|-|/)vm-([1-9][0-9]{2,8})(-|$)` captures (`markPattern`). A
match of the pattern is a machine mark with the separator before it (`exists_matchIn_iff`), and all matches that begin at
one place capture the same number (`captures_eq`), so it does not matter which of them a search prefers. A leftmost match
and the first mark have one number (`exists_leftmost_iff`).

The number of any name is that of the first mark in it, and can be the folder of a file in a handle (`vmNumber_exact`).
-/

namespace ClusterVolumes

namespace VolumeHandle

variable {region zone storage folder file : String}

/-- A file in a folder whose name is a number is read from the text of a handle. -/
theorem exists_parse_folder (place : IsPlace region zone storage) (h : Places folder file) (folder_ne : folder ≠ "") :
    ∃ v : VolumeHandle, v.folder = folder ∧ v.filename = file ∧
      parse (region ++ "/" ++ zone ++ "/" ++ storage ++ "/" ++ folder ++ "/" ++ file) = .ok v := by
  refine ⟨⟨region, zone, storage, diskIn folder file⟩, h.folder_eq rfl, h.filename_eq rfl, ?_⟩
  refine parse_eq_ok_iff_canonical.mpr ⟨⟨place.region, place.zone, place.storage, h.isDiskName⟩, ?_⟩
  simp only [text, diskIn, if_neg folder_ne, String.append_assoc]

end VolumeHandle

namespace DiskName

open Text

/-! ## The pattern of marks -/

/-- The pattern `(^|-|/)vm-([1-9][0-9]{2,8})(-|$)`, of which the number is captured. -/
def markPattern : Pattern :=
  .both (.either .start (.either (.word ['-']) (.word ['/']))) <| .both (.word ['v', 'm', '-']) <|
    .both (.captured (.both (.run '1' '9' 1 1) (.run '0' '9' 2 8))) (.either (.word ['-']) .finish)

variable {cs before front piece number behind piece' behind' : List Char} {captures captures' : List (List Char)}

/-- What a match begins with: nothing at the start of the text, or a dash or a slash. -/
def Opening (front sep : List Char) : Prop :=
  (front = [] ∧ sep = []) ∨ sep = ['-'] ∨ sep = ['/']

/-- A mark may begin where a match has its opening behind it. -/
theorem opens_iff : Opens before ↔ ∃ front sep, before = front ++ sep ∧ Opening front sep := by
  simp only [Opens, List.getLast?_eq_some_iff, Opening]
  constructor
  · rintro (rfl | ⟨front, rfl⟩ | ⟨front, rfl⟩)
    · exact ⟨[], [], rfl, .inl ⟨rfl, rfl⟩⟩
    · exact ⟨front, ['-'], rfl, .inr (.inl rfl)⟩
    · exact ⟨front, ['/'], rfl, .inr (.inr rfl)⟩
  · rintro ⟨front, sep, rfl, ⟨rfl, rfl⟩ | rfl | rfl⟩
    · exact .inl rfl
    · exact .inr (.inl ⟨front, rfl⟩)
    · exact .inr (.inr ⟨front, rfl⟩)

theorem matches_opening_iff :
    (Pattern.either .start (.either (.word ['-']) (.word ['/']))).Matches before piece behind captures ↔
      captures = [] ∧ Opening before piece := by
  simp only [Pattern.Matches, Opening]
  tauto

theorem matches_closing_iff : (Pattern.either (.word ['-']) .finish).Matches before piece behind captures ↔
    captures = [] ∧ (piece = ['-'] ∨ (behind = [] ∧ piece = [])) := by
  simp only [Pattern.Matches]
  tauto

theorem digit_iff {c : Char} : ('0' ≤ c ∧ c ≤ '9') ↔ c.isDigit = true := by
  simp [Char.isDigit, Char.le_def]

theorem digit_ne_zero_iff {c : Char} : ('1' ≤ c ∧ c ≤ '9') ↔ c.isDigit = true ∧ c ≠ '0' := by
  simp only [← digit_iff, Char.le_def, UInt32.le_iff_toNat_le, ne_eq, Char.ext_iff, ← UInt32.toNat_inj]
  have zero : '0'.val.toNat = 48 := rfl
  have one : '1'.val.toNat = 49 := rfl
  omega

theorem matches_number_iff :
    (Pattern.captured (.both (.run '1' '9' 1 1) (.run '0' '9' 2 8))).Matches before piece behind captures ↔
      captures = [piece] ∧ IsNumber piece := by
  simp only [Pattern.Matches, digit_iff, digit_ne_zero_iff]
  constructor
  · rintro ⟨_, rfl, left, right, _, _, rfl, rfl, ⟨first, low, high, rfl⟩, ⟨digits, low', high', rfl⟩⟩
    obtain ⟨c, rfl⟩ := List.length_eq_one_iff.mp (Nat.le_antisymm high low)
    obtain ⟨digit, nonzero⟩ := first c List.mem_cons_self
    refine ⟨rfl, ⟨?_, by simpa using nonzero, ?_, ?_⟩⟩
    · simpa [digit] using digits
    · rw [List.length_append, List.length_singleton]
      omega
    · rw [List.length_append, List.length_singleton]
      omega
  · rintro ⟨rfl, valid⟩
    cases piece with
    | nil => exact absurd valid.long (by decide)
    | cons c rest =>
      obtain ⟨digits, first, long, short⟩ := valid
      rw [List.forall_mem_cons] at digits
      rw [List.length_cons] at long short
      refine ⟨[], rfl, [c], rest, [], [], rfl, rfl, ⟨?_, by simp, by simp, rfl⟩, digits.2, by omega, by omega, rfl⟩
      simpa using ⟨digits.1, by simpa using first⟩

/-- A match is an opening, the letters, a number and a dash or the end, and captures the number. -/
theorem matches_markPattern_iff : markPattern.Matches before piece behind captures ↔ ∃ sep number close,
    piece = sep ++ (['v', 'm', '-'] ++ (number ++ close)) ∧ captures = [number] ∧ Opening before sep ∧
      IsNumber number ∧ (close = ['-'] ∨ (behind = [] ∧ close = [])) := by
  simp only [markPattern, Pattern.matches_both_iff, matches_opening_iff, matches_number_iff, matches_closing_iff]
  constructor
  · rintro ⟨sep, _, _, _, rfl, rfl, ⟨rfl, opening⟩, _, _, _, _, rfl, rfl, ⟨rfl, rfl⟩, number, close, _, _, rfl,
      rfl, ⟨rfl, valid⟩, ⟨rfl, closing⟩⟩
    exact ⟨sep, number, close, rfl, rfl, opening, valid, closing⟩
  · rintro ⟨sep, number, close, rfl, rfl, opening, valid, closing⟩
    exact ⟨sep, _, [], _, rfl, rfl, ⟨rfl, opening⟩, _, _, [], _, rfl, rfl, ⟨rfl, rfl⟩, number, close, [number], [],
      rfl, rfl, ⟨rfl, valid⟩, ⟨rfl, closing⟩⟩

/-! ## Matches and marks -/

/-- The matches of the pattern are the marks, with the separator before them. -/
theorem exists_matchIn_iff : (∃ piece behind, markPattern.MatchIn cs front piece behind captures) ↔
    ∃ sep number behind, captures = [number] ∧ Opening front sep ∧ MarkIn cs (front ++ sep) number behind := by
  constructor
  · rintro ⟨_, behind, text, fits⟩
    obtain ⟨sep, number, close, rfl, rfl, opening, valid, closing⟩ := matches_markPattern_iff.mp fits
    refine ⟨sep, number, close ++ behind, rfl, opening, ?_, opens_iff.mpr ⟨front, sep, rfl, opening⟩, valid, ?_⟩
    · simpa using text
    · rcases closing with rfl | ⟨rfl, rfl⟩
      · exact .inr rfl
      · exact .inl rfl
  · rintro ⟨sep, number, behind, rfl, opening, mark⟩
    obtain ⟨close, rest, closing, rfl⟩ :
        ∃ close rest, (close = ['-'] ∨ (rest = [] ∧ close = [])) ∧ behind = close ++ rest := by
      rcases mark.closes with rfl | dash
      · exact ⟨[], [], .inr ⟨rfl, rfl⟩, rfl⟩
      · obtain ⟨rest, rfl⟩ := List.head?_eq_some_iff.mp dash
        exact ⟨['-'], rest, .inl rfl, rfl⟩
    refine ⟨_, rest, ?_, matches_markPattern_iff.mpr ⟨sep, number, close, rfl, rfl, opening, mark.number, closing⟩⟩
    simpa using mark.text

/-- Matches that begin at one place capture the same number. -/
theorem captures_eq (h : markPattern.MatchIn cs front piece behind captures)
    (h' : markPattern.MatchIn cs front piece' behind' captures') : captures = captures' := by
  obtain ⟨sep, number, _, rfl, opening, mark⟩ := exists_matchIn_iff.mp ⟨_, _, h⟩
  obtain ⟨sep', number', _, rfl, opening', mark'⟩ := exists_matchIn_iff.mp ⟨_, _, h'⟩
  have texts := mark.text.symm.trans mark'.text
  rw [List.append_assoc front, List.append_assoc front] at texts
  -- the character at the place tells the opening, as no separator is a letter of the mark
  have heads := congrArg List.head? (List.append_cancel_left texts)
  have same : sep = sep' := by
    rcases opening with ⟨-, rfl⟩ | rfl | rfl <;> rcases opening' with ⟨-, rfl⟩ | rfl | rfl <;> simp at heads <;> rfl
  subst same
  rw [mark.number_eq mark']

/-- At the first mark there is a leftmost match. -/
theorem FirstMark.exists_leftmost (mark : FirstMark cs before number behind) :
    ∃ front piece rest, markPattern.Leftmost cs front piece rest [number] := by
  obtain ⟨front, sep, rfl, opening⟩ := opens_iff.mp mark.opens
  obtain ⟨piece, rest, here⟩ := exists_matchIn_iff.mpr ⟨sep, number, behind, rfl, opening, mark.toMarkIn⟩
  refine ⟨front, piece, rest, here, fun front' piece' rest' captures' other => ?_⟩
  obtain ⟨sep', number', behind', -, opening', mark'⟩ := exists_matchIn_iff.mp ⟨_, _, other⟩
  have first := mark.first _ _ _ mark'
  rw [List.length_append, List.length_append] at first
  have short : sep'.length ≤ 1 := by rcases opening' with ⟨-, rfl⟩ | rfl | rfl <;> decide
  have long : front = [] ∨ sep.length = 1 := by
    rcases opening with ⟨rfl, -⟩ | rfl | rfl
    · exact .inl rfl
    · exact .inr rfl
    · exact .inr rfl
  rcases long with rfl | long
  · exact Nat.zero_le _
  · omega

/-- The number in a name is what a leftmost match captures. -/
theorem exists_leftmost_iff {disk : String} :
    (∃ before piece behind, markPattern.Leftmost disk.toList before piece behind captures) ↔
      vmNumber disk ≠ "" ∧ captures = [(vmNumber disk).toList] := by
  constructor
  · rintro ⟨before, piece, behind, leftmost⟩
    obtain ⟨sep, number, rest, -, -, mark⟩ := exists_matchIn_iff.mp ⟨_, _, leftmost.toMatchIn⟩
    have nonempty : vmNumber disk ≠ "" := vmNumber_ne_empty_iff.mpr ⟨_, _, _, mark⟩
    obtain ⟨_, _, first⟩ := exists_firstMark_iff.mpr ⟨nonempty, rfl⟩
    obtain ⟨front, _, _, leftmost'⟩ := first.exists_leftmost
    obtain rfl := leftmost.before_eq leftmost'
    exact ⟨nonempty, captures_eq leftmost.toMatchIn leftmost'.toMatchIn⟩
  · rintro ⟨nonempty, rfl⟩
    obtain ⟨_, _, first⟩ := exists_firstMark_iff.mpr ⟨nonempty, rfl⟩
    exact first.exists_leftmost

/-! ## Numbers that do not count -/

/-- A run of digits that is too short or too long is skipped. -/
theorem vmNumber_run {front run tail : String} (opens : Opens front.toList) (digits : ∀ c ∈ run.toList, c.isDigit = true)
    (ends : EndsRun tail.toList) (length : run.length ≤ 2 ∨ 10 ≤ run.length) :
    vmNumber (front ++ "vm-" ++ (run ++ tail)) =
      if vmNumber front = "" then vmNumber (run ++ tail) else vmNumber front := by
  refine vmNumber_skip opens ?_
  rw [String.toList_append]
  refine vmMark?_run digits ends ?_
  rintro ⟨⟨-, -, long, short⟩, -⟩
  rw [String.length_toList] at long short
  omega

/-- A number before a line feed at the end is skipped, of whatever length. -/
theorem vmNumber_newline {front run : String} (opens : Opens front.toList)
    (digits : ∀ c ∈ run.toList, c.isDigit = true) :
    vmNumber (front ++ "vm-" ++ (run ++ "\n")) = vmNumber front := by
  have unmarked : vmMark? (['v', 'm', '-'] ++ (run ++ "\n").toList) = none := by
    rw [String.toList_append]
    refine vmMark?_run digits ?_ ?_
    · rintro c ⟨⟩
      rfl
    · rintro ⟨-, closes⟩
      exact absurd closes (by simp [Closes])
  have free : 'v' ∉ (run ++ "\n").toList := by
    rw [String.toList_append, List.mem_append, not_or]
    exact ⟨fun mem => absurd (digits 'v' mem) (by decide), by decide⟩
  rw [vmNumber_skip opens unmarked, vmNumber_of_notMem free]
  split
  · rename_i none
    exact none.symm
  · rfl

/-! ## Numbers in names -/

/-- **Numbers in names.** In any name there is a number exactly if there is a machine mark, and it is then the number of the
first mark, which is what a leftmost match of the pattern captures; and it can be the folder of a file in a handle. A run of
digits too short or too long is skipped: the number is the one before it, or else the one behind. Digits before a line feed
at the end of a name do not count. -/
theorem vmNumber_exact (disk : String) :
    (vmNumber disk ≠ "" ↔ ∃ before number behind, MarkIn disk.toList before number behind) ∧
      (∀ number, (∃ before behind, FirstMark disk.toList before number behind) ↔
        vmNumber disk ≠ "" ∧ number = (vmNumber disk).toList) ∧
      (∀ captures, (∃ before piece behind, markPattern.Leftmost disk.toList before piece behind captures) ↔
        vmNumber disk ≠ "" ∧ captures = [(vmNumber disk).toList]) ∧
      (vmNumber disk ≠ "" → ∀ region zone storage file, VolumeHandle.IsPlace region zone storage → file ≠ "" →
        '/' ∉ file.toList → ∃ v : VolumeHandle, v.folder = vmNumber disk ∧ v.filename = file ∧
          VolumeHandle.parse (region ++ "/" ++ zone ++ "/" ++ storage ++ "/" ++ vmNumber disk ++ "/" ++ file) = .ok v) ∧
      (∀ front run tail, disk = front ++ "vm-" ++ (run ++ tail) → Opens front.toList →
        (∀ c ∈ run.toList, c.isDigit = true) → EndsRun tail.toList → run.length ≤ 2 ∨ 10 ≤ run.length →
          vmNumber disk = if vmNumber front = "" then vmNumber (run ++ tail) else vmNumber front) ∧
      ∀ front run, disk = front ++ "vm-" ++ (run ++ "\n") → Opens front.toList → (∀ c ∈ run.toList, c.isDigit = true) →
        vmNumber disk = vmNumber front := by
  refine ⟨vmNumber_ne_empty_iff, fun number => exists_firstMark_iff, fun captures => exists_leftmost_iff, ?_, ?_, ?_⟩
  · intro nonempty region zone storage file place file_ne file_free
    exact VolumeHandle.exists_parse_folder place ⟨isDigit_of_mem_vmNumber disk, file_ne, file_free⟩ nonempty
  · rintro front run tail rfl opens digits ends length
    exact vmNumber_run opens digits ends length
  · rintro front run rfl opens digits
    exact vmNumber_newline opens digits

/-- A name whose number stands between runs that are too short, that begin with `0`, and that end before a line feed. -/
theorem vmNumber_exact_overlapping :
    (∃ before behind, FirstMark "base/vm-12-vm-0250-vm-1000-vm-123\n".toList before "1000".toList behind) ∧
      (∃ before piece behind,
        markPattern.Leftmost "base/vm-12-vm-0250-vm-1000-vm-123\n".toList before piece behind ["1000".toList]) ∧
      (∃ v : VolumeHandle, v.folder = vmNumber "base/vm-12-vm-0250-vm-1000-vm-123\n" ∧ v.filename = "disk.raw" ∧
        VolumeHandle.parse ("r1" ++ "/" ++ "pve-1" ++ "/" ++ "local" ++ "/" ++
          vmNumber "base/vm-12-vm-0250-vm-1000-vm-123\n" ++ "/" ++ "disk.raw") = .ok v) ∧
      vmNumber "base/vm-12-vm-0250-vm-1000-vm-123\n" = vmNumber ("12" ++ "-vm-0250-vm-1000-vm-123\n") ∧
      vmNumber "base/vm-12-vm-0250-vm-1000-vm-123\n" = vmNumber "base/vm-12-vm-0250-vm-1000-" := by
  have number : vmNumber "base/vm-12-vm-0250-vm-1000-vm-123\n" = "1000" := by decide +kernel
  have nonempty : vmNumber "base/vm-12-vm-0250-vm-1000-vm-123\n" ≠ "" := by
    rw [number]
    decide
  obtain ⟨-, first, leftmost, folder, skipped, ended⟩ := vmNumber_exact "base/vm-12-vm-0250-vm-1000-vm-123\n"
  refine ⟨(first _).mpr ⟨nonempty, by rw [number]⟩, (leftmost _).mpr ⟨nonempty, by rw [number]⟩, ?_, ?_, ?_⟩
  · exact folder nonempty "r1" "pve-1" "local" "disk.raw" ⟨by decide, by decide, by decide⟩ (by decide) (by decide)
  · have front : vmNumber "base/" = "" := by decide +kernel
    have whole := skipped "base/" "12" "-vm-0250-vm-1000-vm-123\n" (by decide) (.inr (.inr rfl))
      (List.all_eq_true.mp (by decide)) (by rintro c ⟨⟩; rfl) (.inl (by decide))
    rwa [if_pos front] at whole
  · exact ended "base/vm-12-vm-0250-vm-1000-" "123" (by decide) (.inr (.inl rfl)) (List.all_eq_true.mp (by decide))

end DiskName

end ClusterVolumes
