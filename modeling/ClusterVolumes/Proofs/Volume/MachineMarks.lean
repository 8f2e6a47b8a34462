import ClusterVolumes.Proofs.Volume.HandleLanguage
import Mathlib.Data.List.TakeWhile

/-!
# Machine marks

A machine mark stands in the name of a disk at its start or right behind a dash or a slash: the letters `vm-`, a number of
three to nine digits that does not begin with `0`, and then a dash or the end (`MarkIn`). It is said here without the search
for it, which finds the number of the first mark and of no other (`vmDigitsFrom?_eq_some_iff`), and nothing exactly if there
is no mark (`vmDigitsFrom?_eq_none_iff`). Hence what the machine number in a name is (`exists_firstMark_iff`,
`vmNumber_ne_empty_iff`).

Letters at such a place that make no mark are skipped: the search goes on right behind them, so no mark further on is lost
(`vmNumber_skip`).
-/

namespace ClusterVolumes.DiskName

/-! ## Marks -/

/-- Where a mark may begin: at the start of a text, or right behind a dash or a slash. -/
def Opens (before : List Char) : Prop :=
  before = [] ∨ before.getLast? = some '-' ∨ before.getLast? = some '/'

/-- Where the digits of a mark may end: at the end of a text, or right before a dash. -/
def Closes (behind : List Char) : Prop :=
  behind = [] ∨ behind.head? = some '-'

/-- Three to nine digits, of which the first is not `0`. -/
structure IsNumber (number : List Char) : Prop where
  digits : ∀ c ∈ number, c.isDigit = true
  first : number.head? ≠ some '0'
  long : 3 ≤ number.length
  short : number.length ≤ 9

/-- A machine mark in a text: `vm-` and a number, with what stands before and behind them. -/
structure MarkIn (cs before number behind : List Char) : Prop where
  text : cs = before ++ (['v', 'm', '-'] ++ number ++ behind)
  opens : Opens before
  number : IsNumber number
  closes : Closes behind

/-- A machine mark before which no other begins. -/
structure FirstMark (cs before number behind : List Char) : Prop extends MarkIn cs before number behind where
  first : ∀ before' number' behind', MarkIn cs before' number' behind' → before.length ≤ before'.length

variable {cs seen skipped before number behind before' number' behind' run : List Char} {start : Bool}

/-! ## Runs of digits -/

/-- A text that does not go on with a digit ends a run of digits before it. -/
def EndsRun (behind : List Char) : Prop :=
  ∀ c, behind.head? = some c → c.isDigit = false

theorem endsRun_nil : EndsRun [] := by
  rintro c ⟨⟩

theorem Closes.endsRun (h : Closes behind) : EndsRun behind := by
  rintro c first
  rcases h with rfl | dash
  · cases first
  · cases first.symm.trans dash
    rfl

/-- A run of digits is taken whole. -/
theorem takeWhile_run (digits : ∀ c ∈ run, c.isDigit = true) (ends : EndsRun behind) :
    (run ++ behind).takeWhile Char.isDigit = run := by
  rw [List.takeWhile_append_of_pos digits]
  cases behind with
  | nil => simp
  | cons c cs => simp [ends c rfl]

theorem dropWhile_run (digits : ∀ c ∈ run, c.isDigit = true) (ends : EndsRun behind) :
    (run ++ behind).dropWhile Char.isDigit = behind := by
  have whole := List.takeWhile_append_dropWhile (p := Char.isDigit) (l := run ++ behind)
  rw [takeWhile_run digits ends] at whole
  exact List.append_cancel_left whole

/-! ## A mark at the start of a text -/

/-- What is read at the start of a text is the number of a mark there. -/
theorem vmMark?_eq_some_iff : vmMark? cs = some number ↔
    ∃ behind, cs = ['v', 'm', '-'] ++ number ++ behind ∧ IsNumber number ∧ Closes behind := by
  have isDigit_eq : isDigit = Char.isDigit := funext VolumeHandle.isDigit_eq
  constructor
  · intro h
    obtain ⟨rest, begins, h⟩ := Option.bind_eq_some_iff.mp h
    rw [Text.dropStart?_eq_some_iff] at begins
    rw [isDigit_eq] at h
    dsimp only at h
    split at h
    · rename_i valid
      cases h
      refine ⟨rest.dropWhile Char.isDigit, ?_, ⟨?_, valid.1, valid.2.1, valid.2.2.1⟩, valid.2.2.2⟩
      · rw [List.append_assoc, List.takeWhile_append_dropWhile, begins]
      · exact fun c mem => List.mem_takeWhile_imp mem
    · cases h
  · rintro ⟨behind, rfl, valid, closes⟩
    rw [vmMark?, List.append_assoc, Text.dropStart?_eq_some_iff.mpr rfl, isDigit_eq]
    simp only [Option.bind_eq_bind, Option.bind_some, takeWhile_run valid.digits closes.endsRun,
      dropWhile_run valid.digits closes.endsRun]
    exact if_pos ⟨valid.first, valid.long, valid.short, closes⟩

/-- A run of digits that is no number, or does not end as that of a mark does, makes no mark. -/
theorem vmMark?_run {tail : List Char} (digits : ∀ c ∈ run, c.isDigit = true) (ends : EndsRun tail)
    (bad : ¬(IsNumber run ∧ Closes tail)) : vmMark? (['v', 'm', '-'] ++ (run ++ tail)) = none := by
  refine Option.eq_none_iff_forall_ne_some.mpr fun number found => bad ?_
  obtain ⟨behind, text, valid, closes⟩ := vmMark?_eq_some_iff.mp found
  rw [List.append_assoc] at text
  have same := List.append_cancel_left text
  have run_eq := takeWhile_run digits ends
  have tail_eq := dropWhile_run digits ends
  rw [same, takeWhile_run valid.digits closes.endsRun] at run_eq
  rw [same, dropWhile_run valid.digits closes.endsRun] at tail_eq
  exact ⟨run_eq ▸ valid, tail_eq ▸ closes⟩

/-- Marks that begin at one place have the same number. -/
theorem MarkIn.number_eq (mark : MarkIn cs before number behind) (mark' : MarkIn cs before number' behind') :
    number = number' := by
  have found := vmMark?_eq_some_iff.mpr ⟨behind, rfl, mark.number, mark.closes⟩
  have found' := vmMark?_eq_some_iff.mpr ⟨behind', rfl, mark'.number, mark'.closes⟩
  rw [← List.append_cancel_left (mark.text.symm.trans mark'.text), found] at found'
  exact Option.some.inj found'

/-- First marks begin at one place. -/
theorem FirstMark.before_eq (mark : FirstMark cs before number behind) (mark' : FirstMark cs before' number' behind') :
    before = before' := by
  have same : before.length = before'.length :=
    Nat.le_antisymm (mark.first _ _ _ mark'.toMarkIn) (mark'.first _ _ _ mark.toMarkIn)
  exact (List.append_inj (mark.text.symm.trans mark'.text) same).1

/-! ## The search

`seen` is what the search has gone over, and `start` says whether a mark may begin right behind that. -/

/-- The search looks for a mark where one may begin, and then goes on. -/
theorem vmDigitsFrom?_cons {c : Char} : vmDigitsFrom? start (c :: cs) =
    (if start then vmMark? (c :: cs) else none).or (vmDigitsFrom? (c = '-' || c = '/') cs) := by
  rw [vmDigitsFrom?]
  cases (if start then vmMark? (c :: cs) else none) <;> rfl

theorem opens_concat_iff {c : Char} : Opens (seen ++ [c]) ↔ c = '-' ∨ c = '/' := by
  simp [Opens]

/-- A mark stands right behind what is seen exactly if the search looks for one there and finds it. -/
theorem markIn_here_iff (hs : start = true ↔ Opens seen) :
    (∃ behind, MarkIn (seen ++ cs) seen number behind) ↔ (if start then vmMark? cs else none) = some number := by
  rw [Option.ite_none_right_eq_some, hs, vmMark?_eq_some_iff]
  constructor
  · rintro ⟨behind, mark⟩
    exact ⟨mark.opens, behind, List.append_cancel_left mark.text, mark.number, mark.closes⟩
  · rintro ⟨opens, behind, rfl, valid, closes⟩
    exact ⟨behind, rfl, opens, valid, closes⟩

/-- A mark stands right behind what is seen, or further on. -/
theorem markIn_cons_iff {c : Char} : MarkIn (seen ++ c :: cs) (seen ++ skipped) number behind ↔
    (skipped = [] ∧ MarkIn (seen ++ c :: cs) seen number behind) ∨
      ∃ rest, skipped = c :: rest ∧ MarkIn (seen ++ [c] ++ cs) (seen ++ [c] ++ rest) number behind := by
  cases skipped with
  | nil => simp
  | cons d rest =>
    simp only [reduceCtorEq, false_and, false_or, List.cons.injEq, List.append_assoc, List.cons_append, List.nil_append]
    constructor
    · intro mark
      have text := mark.text
      rw [List.append_assoc] at text
      obtain ⟨rfl, -⟩ := List.cons.inj (List.append_cancel_left text)
      exact ⟨rest, ⟨rfl, rfl⟩, mark⟩
    · rintro ⟨_, ⟨rfl, rfl⟩, mark⟩
      exact mark

/-- No mark begins at the end of a text. -/
theorem not_markIn_end : ¬MarkIn (seen ++ []) (seen ++ skipped) number behind := by
  intro mark
  have text := mark.text
  rw [List.append_assoc] at text
  cases skipped with
  | nil => cases List.append_cancel_left text
  | cons c rest => cases List.append_cancel_left text

/-- Where the search finds nothing, no mark stands further on. -/
theorem not_markIn_of_vmDigitsFrom? (seen : List Char) (hs : start = true ↔ Opens seen)
    (none : vmDigitsFrom? start cs = none) (skipped : List Char) : ¬MarkIn (seen ++ cs) (seen ++ skipped) number behind := by
  induction cs generalizing seen start skipped with
  | nil => exact not_markIn_end
  | cons c cs ih =>
    rw [vmDigitsFrom?_cons, Option.or_eq_none_iff] at none
    obtain ⟨here, further⟩ := none
    rw [markIn_cons_iff]
    rintro (⟨-, mark⟩ | ⟨rest, -, mark⟩)
    · cases here.symm.trans ((markIn_here_iff hs).mp ⟨_, mark⟩)
    · exact ih (seen ++ [c]) (by simp [opens_concat_iff]) further rest mark

/-- What the search finds is the number of the first mark further on. -/
theorem exists_markIn_of_vmDigitsFrom? (seen : List Char) (hs : start = true ↔ Opens seen)
    (found : vmDigitsFrom? start cs = some number) :
    ∃ skipped behind, MarkIn (seen ++ cs) (seen ++ skipped) number behind ∧
      ∀ skipped' number' behind', MarkIn (seen ++ cs) (seen ++ skipped') number' behind' →
        skipped.length ≤ skipped'.length := by
  induction cs generalizing seen start with
  | nil => cases found
  | cons c cs ih =>
    rw [vmDigitsFrom?_cons, Option.or_eq_some_iff] at found
    rcases found with here | ⟨here, further⟩
    · obtain ⟨behind, mark⟩ := (markIn_here_iff hs).mpr here
      exact ⟨[], behind, by simpa using mark, fun _ _ _ _ => Nat.zero_le _⟩
    · obtain ⟨rest, behind, mark, first⟩ := ih (seen ++ [c]) (by simp [opens_concat_iff]) further
      refine ⟨c :: rest, behind, markIn_cons_iff.mpr (.inr ⟨rest, rfl, mark⟩), fun skipped' number' behind' other => ?_⟩
      rcases markIn_cons_iff.mp other with ⟨-, mark'⟩ | ⟨rest', rfl, mark'⟩
      · cases here.symm.trans ((markIn_here_iff hs).mp ⟨_, mark'⟩)
      · exact Nat.succ_le_succ (first _ _ _ mark')

/-- The search in a whole text finds nothing exactly if there is no mark. -/
theorem vmDigitsFrom?_eq_none_iff :
    vmDigitsFrom? true cs = none ↔ ∀ before number behind, ¬MarkIn cs before number behind := by
  constructor
  · intro none before number behind mark
    exact not_markIn_of_vmDigitsFrom? [] (by simp [Opens]) none before mark
  · intro free
    cases found : vmDigitsFrom? true cs with
    | none => rfl
    | some number =>
      obtain ⟨before, behind, mark, -⟩ := exists_markIn_of_vmDigitsFrom? [] (by simp [Opens]) found
      exact absurd mark (free before number behind)

/-- The search in a whole text finds the number of the first mark. -/
theorem vmDigitsFrom?_eq_some_iff :
    vmDigitsFrom? true cs = some number ↔ ∃ before behind, FirstMark cs before number behind := by
  have sound : ∀ {number}, vmDigitsFrom? true cs = some number →
      ∃ before behind, FirstMark cs before number behind := by
    intro number found
    obtain ⟨before, behind, mark, first⟩ := exists_markIn_of_vmDigitsFrom? [] (by simp [Opens]) found
    exact ⟨before, behind, mark, first⟩
  refine ⟨sound, ?_⟩
  rintro ⟨before, behind, mark⟩
  cases found : vmDigitsFrom? true cs with
  | none => exact absurd mark.toMarkIn (vmDigitsFrom?_eq_none_iff.mp found _ _ _)
  | some number' =>
    obtain ⟨before', behind', mark'⟩ := sound found
    obtain rfl := mark.before_eq mark'
    rw [mark.toMarkIn.number_eq mark'.toMarkIn]

/-! ## Machine numbers -/

variable {disk : String}

theorem vmNumber_of_vmDigitsFrom? (found : vmDigitsFrom? true disk.toList = some number) :
    vmNumber disk = String.ofList number ∧ vmNumber disk ≠ "" := by
  have number_eq : vmNumber disk = String.ofList number := by rw [vmNumber, found, Option.getD_some]
  refine ⟨number_eq, fun empty => ?_⟩
  obtain ⟨before, behind, mark⟩ := vmDigitsFrom?_eq_some_iff.mp found
  obtain rfl : number = [] := by simpa [number_eq] using empty
  exact absurd mark.number.long (by decide)

theorem vmNumber_eq_empty_iff : vmNumber disk = "" ↔ vmDigitsFrom? true disk.toList = none := by
  constructor
  · intro empty
    cases found : vmDigitsFrom? true disk.toList with
    | none => rfl
    | some number => exact absurd empty (vmNumber_of_vmDigitsFrom? found).2
  · intro none
    rw [vmNumber, none]
    rfl

/-- There is a number in a name exactly if there is a mark. -/
theorem vmNumber_ne_empty_iff :
    vmNumber disk ≠ "" ↔ ∃ before number behind, MarkIn disk.toList before number behind := by
  rw [Ne, vmNumber_eq_empty_iff, vmDigitsFrom?_eq_none_iff]
  simp only [not_forall, not_not]

/-- The number in a name is that of the first mark. -/
theorem exists_firstMark_iff : (∃ before behind, FirstMark disk.toList before number behind) ↔
    vmNumber disk ≠ "" ∧ number = (vmNumber disk).toList := by
  rw [← vmDigitsFrom?_eq_some_iff]
  constructor
  · intro found
    obtain ⟨number_eq, nonempty⟩ := vmNumber_of_vmDigitsFrom? found
    exact ⟨nonempty, by rw [number_eq, String.toList_ofList]⟩
  · rintro ⟨nonempty, rfl⟩
    cases found : vmDigitsFrom? true disk.toList with
    | none => exact absurd (vmNumber_eq_empty_iff.mpr found) nonempty
    | some number => rw [(vmNumber_of_vmDigitsFrom? found).1, String.toList_ofList]

/-- The machine number in the name of a disk is made of digits. -/
theorem isDigit_of_mem_vmNumber (disk : String) : ∀ c ∈ (vmNumber disk).toList, c.isDigit = true := by
  by_cases empty : vmNumber disk = ""
  · rw [empty]
    exact nofun
  · obtain ⟨before, behind, mark⟩ := exists_firstMark_iff.mpr ⟨empty, rfl⟩
    exact mark.number.digits

/-- There is no mark without its letters. -/
theorem vmNumber_of_notMem (free : 'v' ∉ disk.toList) : vmNumber disk = "" := by
  rw [vmNumber_eq_empty_iff, vmDigitsFrom?_eq_none_iff]
  intro before number behind mark
  rw [mark.text] at free
  simp at free

/-! ## Letters that make no mark -/

theorem vmDigitsFrom?_cons_of_ne {c : Char} (h : c ≠ 'v') :
    vmDigitsFrom? start (c :: cs) = vmDigitsFrom? (c = '-' || c = '/') cs := by
  have none : vmMark? (c :: cs) = none := by simp [vmMark?, Text.dropStart?, Ne.symm h]
  rw [vmDigitsFrom?_cons, none, ite_self, Option.none_or]

variable {sep : Char} {front back rest : List Char}

/-- Whether a mark stands before a separator does not hang on what stands behind that, unless digits do. -/
theorem vmMark?_separated (front : List Char) (hsep : sep = '-' ∨ sep = '/') (ends : EndsRun back)
    (found : vmMark? (front ++ sep :: back) = some number) (back' : List Char) :
    vmMark? (front ++ sep :: back') = some number := by
  have plain : sep.isDigit = false := by rcases hsep with rfl | rfl <;> rfl
  obtain ⟨behind, text, valid, closes⟩ := vmMark?_eq_some_iff.mp found
  rw [vmMark?_eq_some_iff]
  rcases List.append_eq_append_iff.mp text with ⟨inner, left, right⟩ | ⟨outer, rfl, right⟩
  · cases inner with
    | nil =>
      -- the number ends at the separator
      rw [List.append_nil] at left
      obtain rfl : sep :: back = behind := right
      exact ⟨sep :: back', by rw [left], valid, .inr (by simpa [Closes] using closes)⟩
    | cons d rest =>
      -- the separator would be one of the letters, with the number behind it, or stand in the number
      obtain ⟨rfl, rfl⟩ := List.cons.inj right
      rcases front with _ | ⟨a, _ | ⟨b, _ | ⟨c, front⟩⟩⟩
      · cases left
        exact absurd hsep (by decide)
      · cases left
        exact absurd hsep (by decide)
      · cases left
        cases number with
        | nil => exact absurd valid.long (by decide)
        | cons d rest =>
          have digit := valid.digits d List.mem_cons_self
          rw [ends d rfl] at digit
          cases digit
      · have held : sep ∈ number := by
          cases left
          simp
        have digit := valid.digits sep held
        rw [plain] at digit
        cases digit
  · -- the number ends before the separator
    refine ⟨outer ++ sep :: back', by simp, valid, ?_⟩
    subst right
    cases outer with
    | nil => exact .inr (by simpa [Closes] using closes)
    | cons d outer => exact .inr (by simpa [Closes] using closes)

/-- A search that finds nothing before a separator goes on behind it as at the start, unless digits stand there. -/
theorem vmDigitsFrom?_separated (hsep : sep = '-' ∨ sep = '/') (ends : EndsRun back) :
    vmDigitsFrom? start (front ++ sep :: back) = (vmDigitsFrom? start (front ++ [sep])).or (vmDigitsFrom? true back) := by
  induction front generalizing start with
  | nil =>
    have other : sep ≠ 'v' := by rcases hsep with rfl | rfl <;> decide
    have opens : (decide (sep = '-') || decide (sep = '/')) = true := by simpa using hsep
    rw [List.nil_append, List.nil_append, vmDigitsFrom?_cons_of_ne other, vmDigitsFrom?_cons_of_ne other, opens]
    rfl
  | cons c front ih =>
    have same : vmMark? (c :: (front ++ sep :: back)) = vmMark? (c :: (front ++ [sep])) := by
      refine Option.ext fun number => ⟨fun found => ?_, fun found => ?_⟩
      · exact vmMark?_separated (c :: front) hsep ends found []
      · exact vmMark?_separated (c :: front) hsep endsRun_nil found back
    rw [List.cons_append, List.cons_append, vmDigitsFrom?_cons, vmDigitsFrom?_cons, same, ih, Option.or_assoc]

/-- Behind letters that make no mark the search goes on as at the start. -/
theorem vmDigitsFrom?_skip (opens : Opens front) (unmarked : vmMark? (['v', 'm', '-'] ++ rest) = none) :
    vmDigitsFrom? true (front ++ (['v', 'm', '-'] ++ rest)) =
      (vmDigitsFrom? true front).or (vmDigitsFrom? true rest) := by
  have behind : vmDigitsFrom? true (['v', 'm', '-'] ++ rest) = vmDigitsFrom? true rest := by
    rw [List.cons_append] at unmarked ⊢
    rw [vmDigitsFrom?_cons, if_pos rfl, unmarked, Option.none_or]
    rw [List.cons_append, vmDigitsFrom?_cons_of_ne (by decide), List.cons_append, vmDigitsFrom?_cons_of_ne (by decide)]
    rfl
  have ends : EndsRun (['v', 'm', '-'] ++ rest) := by
    rintro c ⟨⟩
    rfl
  rw [← behind]
  rcases opens with rfl | last | last
  · rfl
  · obtain ⟨front, rfl⟩ := List.getLast?_eq_some_iff.mp last
    rw [List.append_assoc]
    exact vmDigitsFrom?_separated (.inl rfl) ends
  · obtain ⟨front, rfl⟩ := List.getLast?_eq_some_iff.mp last
    rw [List.append_assoc]
    exact vmDigitsFrom?_separated (.inr rfl) ends

/-- The number in a name with letters that make no mark is the one before them, or else the one behind them. -/
theorem vmNumber_skip {front rest : String} (opens : Opens front.toList)
    (unmarked : vmMark? (['v', 'm', '-'] ++ rest.toList) = none) :
    vmNumber (front ++ "vm-" ++ rest) = if vmNumber front = "" then vmNumber rest else vmNumber front := by
  have chars : (front ++ "vm-" ++ rest).toList = front.toList ++ (['v', 'm', '-'] ++ rest.toList) := by simp
  cases found : vmDigitsFrom? true front.toList with
  | none =>
    rw [if_pos (vmNumber_eq_empty_iff.mpr found), vmNumber, chars, vmDigitsFrom?_skip opens unmarked, found]
    rfl
  | some number =>
    obtain ⟨number_eq, nonempty⟩ := vmNumber_of_vmDigitsFrom? found
    rw [if_neg nonempty, number_eq, vmNumber, chars, vmDigitsFrom?_skip opens unmarked, found]
    rfl

end ClusterVolumes.DiskName
