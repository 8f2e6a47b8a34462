import ClusterVolumes.Json.Reader
import ClusterVolumes.Proofs.Text.Decimal

/-!
# JSON that is written and read

A value is plain if its texts and keys have characters and its numbers are natural numbers. A plain value that is
written is read as itself: character by character in a text (`readText_escape`), and part by part in a list or an
object. What stands behind a value must not go on with it, as digits would with a number (`EndsNumber`).
-/

namespace ClusterVolumes.Json

/-! ## Plain values -/

mutual

/-- All texts and keys in the value have characters, and all numbers are natural numbers. -/
def isPlain : Json → Bool
  | .null => true
  | .bool _ => true
  | .nat _ => true
  | .str s => s.isSome
  | .arr items => itemsPlain items
  | .obj members => membersPlain members
  | .decimal _ => false
  | .broken => false

/-- All items are plain. -/
def itemsPlain : List Json → Bool
  | [] => true
  | j :: js => j.isPlain && itemsPlain js

/-- All members are plain. -/
def membersPlain : List (Option String × Json) → Bool
  | [] => true
  | (k, j) :: ms => k.isSome && j.isPlain && membersPlain ms

end

mutual

theorem isIntact_of_isPlain : ∀ {j : Json}, j.isPlain = true → j.isIntact = true
  | .null, _ | .bool _, _ | .nat _, _ | .str _, _ => rfl
  | .arr _, h => itemsIntact_of_itemsPlain h
  | .obj _, h => membersIntact_of_membersPlain h
  | .decimal _, h | .broken, h => nomatch h

theorem itemsIntact_of_itemsPlain : ∀ {js : List Json}, itemsPlain js = true → itemsIntact js = true
  | [], _ => rfl
  | j :: js, h => by
    rw [itemsPlain, Bool.and_eq_true] at h
    rw [itemsIntact, isIntact_of_isPlain h.1, itemsIntact_of_itemsPlain h.2]
    rfl

theorem membersIntact_of_membersPlain : ∀ {ms : List (Option String × Json)}, membersPlain ms = true →
    membersIntact ms = true
  | [], _ => rfl
  | (k, j) :: ms, h => by
    rw [membersPlain, Bool.and_eq_true, Bool.and_eq_true] at h
    rw [membersIntact, isIntact_of_isPlain h.1.2, membersIntact_of_membersPlain h.2]
    rfl

end

/-! ## Texts -/

/-- The characters of a text, as they are written. -/
def escape (cs : List Char) : List Char :=
  cs.flatMap fun c => (escapeChar c).toList

@[simp] theorem escape_cons (c : Char) (cs : List Char) : escape (c :: cs) = (escapeChar c).toList ++ escape cs :=
  List.flatMap_cons

/-- A character that is written with its number is read. -/
theorem readText_unicode {fuel n : Nat} {a b c d : Char} {rest : List Char} (h : hexFour? a b c d = some n)
    (low : n < 0xD800) :
    readText (fuel + 1) ('\\' :: 'u' :: a :: b :: c :: d :: rest) =
      (readText fuel rest).map (consChar (Char.ofNat n)) := by
  have notLow : isLowSurrogate n = false := by simp [isLowSurrogate]; omega
  have notHigh : isHighSurrogate n = false := by simp [isHighSurrogate]; omega
  rw [readText, h]
  simp [notLow, notHigh]

/-- A character that is written with a letter is read. -/
theorem readText_letter {fuel : Nat} {c e : Char} {rest : List Char} (h : unescape? e = some c) (other : e ≠ 'u') :
    readText (fuel + 1) ('\\' :: e :: rest) = (readText fuel rest).map (consChar c) := by
  rw [readText, h]
  all_goals simp [other]

/-- A character that is written as it is is read. -/
theorem readText_plain {fuel : Nat} {c : Char} {rest : List Char} (quote : c ≠ '"') (escape : c ≠ '\\')
    (printed : 32 ≤ c.toNat) : readText (fuel + 1) (c :: rest) = (readText fuel rest).map (consChar c) := by
  rw [readText, if_neg]
  all_goals simp [quote, escape]
  omega

/-- A character without a form of its own is written with its number. -/
theorem escapeChar_control {n : Nat} (h : n < 32) (notLetter : n ≠ 8 ∧ n ≠ 9 ∧ n ≠ 10 ∧ n ≠ 12 ∧ n ≠ 13) :
    ∃ c d, (escapeChar (Char.ofNat n)).toList = ['\\', 'u', '0', '0', c, d] ∧ hexFour? '0' '0' c d = some n := by
  have all : ∀ n : Fin 32, n.val ≠ 8 ∧ n.val ≠ 9 ∧ n.val ≠ 10 ∧ n.val ≠ 12 ∧ n.val ≠ 13 →
      (escapeChar (Char.ofNat n)).toList =
        ['\\', 'u', '0', '0', Nat.digitChar (n / 16), Nat.digitChar (n % 16)] ∧
      hexFour? '0' '0' (Nat.digitChar (n / 16)) (Nat.digitChar (n % 16)) = some n.val := by
    decide +kernel
  exact ⟨_, _, all ⟨n, h⟩ notLetter⟩

/-- Any other character is written as it is. -/
theorem escapeChar_plain {c : Char} (quote : c ≠ '"') (slash : c ≠ '\\') (printed : 32 ≤ c.toNat) :
    escapeChar c = String.singleton c := by
  have (d : Char) (h : d.toNat < 32) : c ≠ d := by
    rintro rfl
    omega
  unfold escapeChar
  rw [if_neg quote, if_neg slash, if_neg (this _ (by decide)), if_neg (this _ (by decide)),
    if_neg (this _ (by decide)), if_neg (by omega), if_neg (by omega), if_neg (by omega), if_neg (by omega)]

/-- A written character is read. -/
theorem readText_escapeChar {fuel : Nat} (c : Char) {rest : List Char} :
    readText (fuel + 1) ((escapeChar c).toList ++ rest) = (readText fuel rest).map (consChar c) := by
  by_cases small : c.toNat < 32
  · by_cases letter : c.toNat ≠ 8 ∧ c.toNat ≠ 9 ∧ c.toNat ≠ 10 ∧ c.toNat ≠ 12 ∧ c.toNat ≠ 13
    · obtain ⟨a, b, written, number⟩ := escapeChar_control small letter
      rw [Char.ofNat_toNat] at written
      rw [written]
      refine (readText_unicode number (by omega)).trans ?_
      rw [Char.ofNat_toNat]
      rfl
    · have five : c = '\x08' ∨ c = '\t' ∨ c = '\n' ∨ c = '\x0c' ∨ c = '\r' := by
        have (n : Nat) (h : c.toNat = n) : c = Char.ofNat n := by rw [← h, Char.ofNat_toNat]
        rcases (by omega : c.toNat = 8 ∨ c.toNat = 9 ∨ c.toNat = 10 ∨ c.toNat = 12 ∨ c.toNat = 13) with
          h | h | h | h | h
        all_goals simp [this _ h]
      rcases five with rfl | rfl | rfl | rfl | rfl
      all_goals exact readText_letter (by decide) (by decide)
  · by_cases quote : c = '"'
    · subst quote
      exact readText_letter (by decide) (by decide)
    · by_cases slash : c = '\\'
      · subst slash
        exact readText_letter (by decide) (by decide)
      · rw [escapeChar_plain quote slash (by omega), String.toList_singleton]
        exact readText_plain quote slash (by omega)

/-- A written text is read up to its closing quote. -/
theorem readText_escape {fuel : Nat} {cs rest : List Char} (h : cs.length < fuel) :
    readText fuel (escape cs ++ '"' :: rest) = some (some cs, rest) := by
  induction cs generalizing fuel with
  | nil =>
    obtain ⟨fuel, rfl⟩ := Nat.exists_eq_add_of_lt h
    rw [show escape [] = [] from rfl]
    simp [readText]
  | cons c cs ih =>
    cases fuel with
    | zero => cases h
    | succ fuel =>
      rw [escape_cons, List.append_assoc, readText_escapeChar, ih (by simpa using h)]
      rfl

theorem readQuoted_escape {cs rest : List Char} :
    readQuoted (escape cs ++ '"' :: rest) = some (some (String.ofList cs), rest) := by
  have short : cs.length ≤ (escape cs).length := by
    induction cs with
    | nil => exact Nat.zero_le _
    | cons c cs ih =>
      have one : 0 < (escapeChar c).toList.length := by
        rw [List.length_pos_iff]
        intro none
        have read : readText 2 ((escapeChar c).toList ++ ['"']) = _ := readText_escapeChar c
        rw [none] at read
        simp [readText, consChar] at read
      rw [escape_cons, List.length_append, List.length_cons]
      omega
  unfold readQuoted
  rw [readText_escape (by rw [List.length_append]; omega)]
  rfl

/-! ## Numbers -/

/-- The text does not go on with a number. -/
def EndsNumber (rest : List Char) : Prop :=
  ∀ c cs, rest = c :: cs → c.isDigit = false ∧ c ≠ '.' ∧ c ≠ 'e' ∧ c ≠ 'E'

/-- A number is written with at least one digit. -/
theorem exists_toDigits (n : Nat) : ∃ c cs, Nat.toDigits 10 n = c :: cs ∧ c.isDigit = true := by
  cases digits : Nat.toDigits 10 n with
  | nil => cases Nat.toDigits_ne_nil digits
  | cons c cs =>
    exact ⟨c, cs, rfl, Nat.isDigit_of_mem_toDigits (b := 10) (n := n) (by decide) (by decide) (by simp [digits])⟩

/-- A number but zero begins with another digit than `0`. -/
theorem head_toDigits_ne_zero {n : Nat} (h : 0 < n) {cs : List Char} : Nat.toDigits 10 n ≠ '0' :: cs := by
  induction n using Nat.strongRecOn generalizing cs with
  | _ n ih =>
    rw [Nat.toDigits_eq_if (by decide)]
    split
    · rename_i small
      intro same
      have digit : Nat.digitChar n = '0' := (List.cons.inj same).1
      have : ∀ n : Fin 10, 0 < n.val → Nat.digitChar n ≠ '0' := by decide
      exact this ⟨n, small⟩ h digit
    · intro same
      obtain ⟨d, ds, front, -⟩ := exists_toDigits (n / 10)
      rw [front] at same
      obtain ⟨rfl, -⟩ := List.cons.inj same
      exact ih (n / 10) (by omega) (by omega) front

theorem readRun_toDigits {n : Nat} {rest : List Char} (h : EndsNumber rest) :
    readRun (Nat.toDigits 10 n ++ rest) = (Nat.toDigits 10 n, rest) := by
  have digits : ∀ c ∈ Nat.toDigits 10 n, c.isDigit = true :=
    fun c hc => Nat.isDigit_of_mem_toDigits (by decide) (by decide) hc
  have front : rest.takeWhile Char.isDigit = [] ∧ rest.dropWhile Char.isDigit = rest := by
    cases rest with
    | nil => exact ⟨rfl, rfl⟩
    | cons c cs => simp [(h c cs rfl).1]
  unfold readRun
  rw [List.takeWhile_append_of_pos digits, List.dropWhile_append_of_pos digits, front.1, front.2, List.append_nil]

theorem readWhole_toDigits {n : Nat} {rest : List Char} (h : EndsNumber rest) :
    readWhole (Nat.toDigits 10 n ++ rest) = some (Nat.toDigits 10 n, rest) := by
  unfold readWhole
  rw [readRun_toDigits h]
  cases n with
  | zero => rfl
  | succ n =>
    split
    · rename_i same
      cases Nat.toDigits_ne_nil (Prod.mk.inj same).1
    · rename_i same
      cases head_toDigits_ne_zero (Nat.succ_pos n) (Prod.mk.inj same).1
    · rename_i same
      obtain ⟨rfl, rfl⟩ := Prod.mk.inj same
      rfl

/-- A natural number is read. -/
theorem readNumber_toDigits {n : Nat} {rest : List Char} (h : EndsNumber rest) :
    readNumber [] (Nat.toDigits 10 n ++ rest) = (.nat n, some rest) := by
  have whole : Text.readNat? (Nat.toDigits 10 n) = some n := Text.readNat?_toDigits n
  have fraction : readFraction rest = some ([], rest) := by
    cases rest with
    | nil => rfl
    | cons c cs =>
      unfold readFraction
      split
      · rename_i same
        cases (h c cs rfl).2.1 (List.cons.inj same).1
      · rfl
  have exponent : readExponent rest = some ([], rest) := by
    cases rest with
    | nil => rfl
    | cons c cs => simp [readExponent, (h c cs rfl).2.2]
  unfold readNumber
  simp [readWhole_toDigits h, fraction, exponent, whole]

/-! ## Values -/

theorem skipSpace_cons {c : Char} {cs : List Char} (h : isSpace c = false) : skipSpace (c :: cs) = c :: cs :=
  List.dropWhile_cons_of_neg (by simp [h])

theorem not_isSpace_of_isDigit {c : Char} (h : c.isDigit = true) : isSpace c = false := by
  cases e : isSpace c with
  | false => rfl
  | true =>
    simp only [isSpace, Bool.or_eq_true, decide_eq_true_eq] at e
    rcases e with ((rfl | rfl) | rfl) | rfl <;> cases h

theorem readValue_digit {fuel : Nat} {c : Char} {cs : List Char} (h : c.isDigit = true) :
    readValue (fuel + 1) (c :: cs) = readNumber [] (c :: cs) := by
  rw [readValue, skipSpace_cons (not_isSpace_of_isDigit h)]
  split
  case h_8 same =>
    obtain ⟨rfl, rfl⟩ := List.cons.inj same
    exact if_pos h
  case h_9 same => cases same
  all_goals
    rename_i same
    obtain ⟨rfl, -⟩ := List.cons.inj same
    cases h

theorem toList_renderText (s : String) : (renderText (some s)).toList = '"' :: (escape s.toList ++ ['"']) := by
  simp [renderText, escape]

theorem ends_bracket {c : Char} {rest : List Char} (h : c = ',' ∨ c = ']' ∨ c = '\x7d') : EndsNumber (c :: rest) := by
  rintro _ _ ⟨⟩
  rcases h with rfl | rfl | rfl <;> decide

/-- What is written begins with a character that is no blank and ends no list. -/
theorem toList_render {j : Json} (h : j.isPlain = true) :
    ∃ c cs, j.render.toList = c :: cs ∧ isSpace c = false ∧ c ≠ ']' := by
  cases j with
  | null => exact ⟨'n', _, rfl, by decide, by decide⟩
  | bool b => cases b with
    | true => exact ⟨'t', _, rfl, by decide, by decide⟩
    | false => exact ⟨'f', _, rfl, by decide, by decide⟩
  | nat n =>
    obtain ⟨c, cs, digits, digit⟩ := exists_toDigits n
    refine ⟨c, cs, by rw [render, Text.toList_toString, digits], not_isSpace_of_isDigit digit, ?_⟩
    rintro rfl
    cases digit
  | str s => cases s with
    | none => cases h
    | some s => exact ⟨'"', _, toList_renderText s, by decide, by decide⟩
  | arr items => exact ⟨'[', _, by rw [render, String.toList_append, String.toList_append]; rfl, by decide, by decide⟩
  | obj members =>
    exact ⟨'\x7b', _, by rw [render, String.toList_append, String.toList_append]; rfl, by decide, by decide⟩
  | decimal => cases h
  | broken => cases h

theorem readValue_quoted {fuel : Nat} {s : String} {rest : List Char} :
    readValue (fuel + 1) ((renderText (some s)).toList ++ rest) = (.str (some s), some rest) := by
  rw [toList_renderText, List.cons_append, readValue, skipSpace_cons (by decide)]
  simp [readQuoted_escape]

theorem toList_renderItems_cons (j j' : Json) (js : List Json) :
    (renderItems (j :: j' :: js)).toList = j.render.toList ++ ',' :: (renderItems (j' :: js)).toList := by
  simp [renderItems, String.toList_append]

theorem toList_renderMembers_one (k : Option String) (j : Json) :
    (renderMembers [(k, j)]).toList = (renderText k).toList ++ ':' :: j.render.toList := by
  simp [renderMembers, String.toList_append]

theorem toList_renderMembers_cons (k : Option String) (j : Json) (m : Option String × Json)
    (ms : List (Option String × Json)) :
    (renderMembers ((k, j) :: m :: ms)).toList =
      (renderText k).toList ++ ':' :: (j.render.toList ++ ',' :: (renderMembers (m :: ms)).toList) := by
  simp [renderMembers, String.toList_append]

/-- A list is read if its items are. -/
theorem readValue_arr {fuel : Nat} {cs : List Char} {js : List Json} {after : Option (List Char)}
    (head : ∃ c cs', cs = c :: cs' ∧ isSpace c = false ∧ c ≠ ']') (read : readItems fuel cs = (js, after)) :
    readValue (fuel + 1) ('[' :: cs) = (.arr js, after) := by
  obtain ⟨c, cs', rfl, unblank, other⟩ := head
  rw [readValue, skipSpace_cons (by decide)]
  simp [skipSpace_cons unblank, other, read]

/-- An object is read if its members are. -/
theorem readValue_obj {fuel : Nat} {cs : List Char} {ms : List (Option String × Json)}
    {after : Option (List Char)} (read : readMembers fuel ('"' :: cs) = (ms, after)) :
    readValue (fuel + 1) ('\x7b' :: '"' :: cs) = (.obj ms, after) := by
  rw [readValue, skipSpace_cons (by decide)]
  simp [skipSpace_cons (c := '"') (by decide), read]

/-- The last item is read. -/
theorem readItems_one {fuel : Nat} {cs rest : List Char} {j : Json}
    (read : readValue fuel cs = (j, some (']' :: rest))) : readItems (fuel + 1) cs = ([j], some rest) := by
  rw [readItems, read]
  simp [skipSpace_cons (c := ']') (by decide)]

/-- An item is read, and then the others. -/
theorem readItems_cons {fuel : Nat} {cs cs' : List Char} {j : Json} {js : List Json} {after : Option (List Char)}
    (read : readValue fuel cs = (j, some (',' :: cs'))) (others : readItems fuel cs' = (js, after)) :
    readItems (fuel + 1) cs = (j :: js, after) := by
  rw [readItems, read]
  simp [skipSpace_cons (c := ',') (by decide), others]

/-- The last member is read. -/
theorem readMembers_one {fuel : Nat} {k : String} {cs rest : List Char} {j : Json}
    (read : readValue fuel cs = (j, some ('\x7d' :: rest))) :
    readMembers (fuel + 1) ((renderText (some k)).toList ++ ':' :: cs) = ([(some k, j)], some rest) := by
  rw [toList_renderText, List.cons_append, readMembers, skipSpace_cons (by decide)]
  simp [readQuoted_escape, skipSpace_cons (c := ':') (by decide), skipSpace_cons (c := '\x7d') (by decide), read]

/-- A member is read, and then the others. -/
theorem readMembers_cons {fuel : Nat} {k : String} {cs cs' : List Char} {j : Json}
    {ms : List (Option String × Json)} {after : Option (List Char)}
    (read : readValue fuel cs = (j, some (',' :: cs'))) (others : readMembers fuel cs' = (ms, after)) :
    readMembers (fuel + 1) ((renderText (some k)).toList ++ ':' :: cs) = ((some k, j) :: ms, after) := by
  rw [toList_renderText, List.cons_append, readMembers, skipSpace_cons (by decide)]
  simp [readQuoted_escape, skipSpace_cons (c := ':') (by decide), skipSpace_cons (c := ',') (by decide), read, others]

theorem toList_renderItems {j : Json} {js : List Json} (h : itemsPlain (j :: js) = true) :
    ∃ c cs, (renderItems (j :: js)).toList = c :: cs ∧ isSpace c = false ∧ c ≠ ']' := by
  rw [itemsPlain, Bool.and_eq_true] at h
  obtain ⟨c, cs, written, unblank, other⟩ := toList_render h.1
  cases js with
  | nil => exact ⟨c, cs, written, unblank, other⟩
  | cons j' js =>
    exact ⟨c, cs ++ ',' :: (renderItems (j' :: js)).toList, by rw [toList_renderItems_cons, written]; rfl, unblank,
      other⟩

theorem toList_renderMembers {m : Option String × Json} {ms : List (Option String × Json)}
    (h : membersPlain (m :: ms) = true) : ∃ cs, (renderMembers (m :: ms)).toList = '"' :: cs := by
  obtain ⟨_ | k, j⟩ := m
  · cases h
  · cases ms with
    | nil => exact ⟨_, by rw [toList_renderMembers_one, toList_renderText]; rfl⟩
    | cons m' ms => exact ⟨_, by rw [toList_renderMembers_cons, toList_renderText]; rfl⟩

theorem exists_fuel {j : Json} (h : j.isPlain = true) {fuel : Nat} (enough : 2 * j.render.toList.length ≤ fuel) :
    ∃ n, fuel = n + 1 := by
  obtain ⟨c, cs, written, -⟩ := toList_render h
  rw [written, List.length_cons] at enough
  exact ⟨fuel - 1, by omega⟩

theorem readValue_nat {fuel n : Nat} {rest : List Char} (ends : EndsNumber rest) :
    readValue (fuel + 1) ((render (.nat n)).toList ++ rest) = (.nat n, some rest) := by
  have read := readNumber_toDigits (n := n) ends
  obtain ⟨c, cs, digits, digit⟩ := exists_toDigits n
  rw [digits] at read
  rw [render, Text.toList_toString, digits]
  exact (readValue_digit digit).trans read

mutual

/-- A plain value that is written is read. The fuel is spent on lists, objects, items and members; each of them takes
two steps at most, and stands for at least one character. -/
theorem readValue_render : ∀ {j : Json} {fuel : Nat} {rest : List Char}, j.isPlain = true →
    2 * j.render.toList.length ≤ fuel + 1 → EndsNumber rest →
    readValue (fuel + 1) (j.render.toList ++ rest) = (j, some rest)
  | .null, _, _, _, _, _ => rfl
  | .bool true, _, _, _, _, _ => rfl
  | .bool false, _, _, _, _, _ => rfl
  | .nat _, _, _, _, _, ends => readValue_nat ends
  | .str s, fuel, rest, h, _, _ => by
    obtain ⟨s, rfl⟩ := Option.isSome_iff_exists.mp h
    exact readValue_quoted
  | .arr [], _, _, _, _, _ => rfl
  | .arr (j :: js), fuel, rest, h, enough, _ => by
    obtain ⟨c, cs, written, start⟩ := toList_renderItems h
    have whole : (render (.arr (j :: js))).toList = '[' :: ((renderItems (j :: js)).toList ++ [']']) := by
      simp [render, String.toList_append]
    rw [whole] at enough ⊢
    simp only [List.length_cons, List.length_append, List.length_nil] at enough
    obtain ⟨fuel, rfl⟩ : ∃ n, fuel = n + 1 := ⟨fuel - 1, by omega⟩
    rw [List.cons_append, List.append_assoc]
    refine readValue_arr ⟨c, cs ++ ([']'] ++ rest), by rw [written]; rfl, start⟩ ?_
    exact readItems_render (List.cons_ne_nil _ _) h (by omega)
  | .obj [], _, _, _, _, _ => rfl
  | .obj (m :: ms), fuel, rest, h, enough, _ => by
    obtain ⟨cs, written⟩ := toList_renderMembers h
    have whole : (render (.obj (m :: ms))).toList = '\x7b' :: ((renderMembers (m :: ms)).toList ++ ['\x7d']) := by
      simp [render, String.toList_append]
    rw [whole] at enough ⊢
    simp only [List.length_cons, List.length_append, List.length_nil] at enough
    obtain ⟨fuel, rfl⟩ : ∃ n, fuel = n + 1 := ⟨fuel - 1, by omega⟩
    have read : readMembers (fuel + 1) ((renderMembers (m :: ms)).toList ++ '\x7d' :: rest) = (m :: ms, some rest) :=
      readMembers_render (List.cons_ne_nil _ _) h (by omega)
    rw [written] at read
    rw [List.cons_append, List.append_assoc, written]
    exact readValue_obj read
  | .decimal _, _, _, h, _, _ => nomatch h
  | .broken, _, _, h, _, _ => nomatch h

theorem readItems_render : ∀ {js : List Json} {fuel : Nat} {rest : List Char}, js ≠ [] →
    itemsPlain js = true → 2 * (renderItems js).toList.length ≤ fuel →
    readItems (fuel + 1) ((renderItems js).toList ++ ']' :: rest) = (js, some rest)
  | [], _, _, h, _, _ => absurd rfl h
  | [j], fuel, rest, _, h, enough => by
    rw [itemsPlain, Bool.and_eq_true] at h
    obtain ⟨fuel, rfl⟩ := exists_fuel h.1 enough
    exact readItems_one (readValue_render h.1 enough (ends_bracket (by simp)))
  | j :: j' :: js, fuel, rest, _, h, enough => by
    rw [itemsPlain, Bool.and_eq_true] at h
    rw [toList_renderItems_cons] at enough ⊢
    rw [List.length_append, List.length_cons] at enough
    obtain ⟨fuel, rfl⟩ : ∃ n, fuel = n + 1 := ⟨fuel - 1, by omega⟩
    rw [List.append_assoc, List.cons_append]
    exact readItems_cons (readValue_render h.1 (by omega) (ends_bracket (by simp)))
      (readItems_render (List.cons_ne_nil _ _) h.2 (by omega))

theorem readMembers_render : ∀ {ms : List (Option String × Json)} {fuel : Nat} {rest : List Char}, ms ≠ [] →
    membersPlain ms = true → 2 * (renderMembers ms).toList.length ≤ fuel →
    readMembers (fuel + 1) ((renderMembers ms).toList ++ '\x7d' :: rest) = (ms, some rest)
  | [], _, _, h, _, _ => absurd rfl h
  | [(k, j)], fuel, rest, _, h, enough => by
    rw [membersPlain, Bool.and_eq_true, Bool.and_eq_true] at h
    obtain ⟨k, rfl⟩ := Option.isSome_iff_exists.mp h.1.1
    rw [toList_renderMembers_one] at enough ⊢
    rw [List.length_append, List.length_cons] at enough
    obtain ⟨fuel, rfl⟩ : ∃ n, fuel = n + 1 := ⟨fuel - 1, by omega⟩
    rw [List.append_assoc, List.cons_append]
    exact readMembers_one (readValue_render h.1.2 (by omega) (ends_bracket (by simp)))
  | (k, j) :: m :: ms, fuel, rest, _, h, enough => by
    rw [membersPlain, Bool.and_eq_true, Bool.and_eq_true] at h
    obtain ⟨k, rfl⟩ := Option.isSome_iff_exists.mp h.1.1
    rw [toList_renderMembers_cons] at enough ⊢
    simp only [List.length_append, List.length_cons] at enough
    obtain ⟨fuel, rfl⟩ : ∃ n, fuel = n + 1 := ⟨fuel - 1, by omega⟩
    rw [List.append_assoc, List.cons_append, List.append_assoc, List.cons_append]
    exact readMembers_cons (readValue_render h.1.2 (by omega) (ends_bracket (by simp)))
      (readMembers_render (List.cons_ne_nil _ _) h.2 (by omega))

end

/-- **A plain value is read as it was written.** -/
theorem parse?_render {j : Json} (h : j.isPlain = true) : parse? j.render = some j := by
  have read : readValue (2 * j.render.toList.length + 2) j.render.toList = (j, some []) := by
    rw [← List.append_nil j.render.toList]
    exact readValue_render h (by rw [List.append_nil]; omega) nofun
  unfold parse? readAll
  simp [read, skipSpace, isIntact_of_isPlain h]

end ClusterVolumes.Json
