import ClusterVolumes.Json.Value
import ClusterVolumes.Text.Unsigned

/-!
# Reading JSON

`Json.read` reads a text. What it finds is a value, in which `broken` marks the place where the text
stops being JSON, and the characters behind the value if it was read to its end. `Json.parse?`
accepts exactly a whole text that holds one value and blanks around it.

The readers take as fuel a bound on the length of what is left; each list, object, item and member
costs a character, so `readAll` never runs out.
-/

namespace ClusterVolumes.Json

/-- The blanks of JSON. -/
def isSpace (c : Char) : Bool :=
  c = ' ' || c = '\n' || c = '\t' || c = '\r'

/-- The text behind the blanks at its start. -/
def skipSpace (cs : List Char) : List Char :=
  cs.dropWhile isSpace

/-- What a reader found: a value, and the characters behind it unless the text broke off. -/
abbrev Found := Json × Option (List Char)

/-- The text broke off before any value. -/
def breakOff : Found := (.broken, none)

/-! ## Words and numbers -/

/-- The rest of a word and the value it stands for. -/
def readWord (word : List Char) (j : Json) (cs : List Char) : Found :=
  match Text.dropStart? word cs with
  | some rest => (j, some rest)
  | none => breakOff

/-- A run of digits and what stands behind it. -/
def readRun (cs : List Char) : List Char × List Char :=
  (cs.takeWhile Char.isDigit, cs.dropWhile Char.isDigit)

/-- The fraction of a number, a point and at least one digit, if there is a point; none if the
digits are missing. -/
def readFraction : List Char → Option (List Char × List Char)
  | '.' :: cs =>
    match readRun cs with
    | ([], _) => none
    | (ds, rest) => some ('.' :: ds, rest)
  | cs => some ([], cs)

/-- The sign of an exponent, if there is one. -/
def readSign : List Char → List Char × List Char
  | '+' :: cs => (['+'], cs)
  | '-' :: cs => (['-'], cs)
  | cs => ([], cs)

/-- The exponent of a number, if there is one; none if its digits are missing. -/
def readExponent : List Char → Option (List Char × List Char)
  | [] => some ([], [])
  | c :: cs =>
    if c = 'e' || c = 'E' then
      let (sign, cs) := readSign cs
      match readRun cs with
      | ([], _) => none
      | (ds, rest) => some (c :: sign ++ ds, rest)
    else some ([], c :: cs)

/-- The whole part of a number: `0`, or digits of which the first is not `0`. -/
def readWhole (cs : List Char) : Option (List Char × List Char) :=
  match readRun cs with
  | ([], _) => none
  | ('0' :: _ :: _, _) => none
  | (ds, rest) => some (ds, rest)

/-- A number behind its sign. -/
def readNumber (sign : List Char) (cs : List Char) : Found :=
  let parts := do
    let (whole, cs) ← readWhole cs
    let (fraction, cs) ← readFraction cs
    let (exponent, cs) ← readExponent cs
    pure (whole, fraction, exponent, cs)
  match parts with
  | none => breakOff
  | some (whole, fraction, exponent, rest) =>
    match sign, fraction, exponent with
    | [], [], [] => (.nat ((Text.readNat? whole).getD 0), some rest)
    | _, _, _ => (.decimal (String.ofList (sign ++ whole ++ fraction ++ exponent)), some rest)

/-! ## Texts -/

/-- The value of a hexadecimal digit. -/
def hexValue? (c : Char) : Option Nat :=
  if '0' ≤ c ∧ c ≤ '9' then some (c.toNat - 48)
  else if 'a' ≤ c ∧ c ≤ 'f' then some (c.toNat - 87)
  else if 'A' ≤ c ∧ c ≤ 'F' then some (c.toNat - 55)
  else none

/-- The number that four hexadecimal digits write. -/
def hexFour? (a b c d : Char) : Option Nat := do
  let a ← hexValue? a
  let b ← hexValue? b
  let c ← hexValue? c
  let d ← hexValue? d
  pure (((a * 16 + b) * 16 + c) * 16 + d)

/-- The character of an escape of one letter. -/
def unescape? (c : Char) : Option Char :=
  if c = '"' || c = '\\' || c = '/' then some c
  else if c = 'b' then some '\x08'
  else if c = 'f' then some '\x0c'
  else if c = 'n' then some '\n'
  else if c = 'r' then some '\r'
  else if c = 't' then some '\t'
  else none

/-- A surrogate that begins a pair. -/
def isHighSurrogate (n : Nat) : Bool :=
  0xD800 ≤ n && n < 0xDC00

/-- A surrogate that ends a pair. -/
def isLowSurrogate (n : Nat) : Bool :=
  0xDC00 ≤ n && n < 0xE000

/-- What is left of a text: its characters, none if a surrogate stands alone, and what is behind the
closing quote. -/
abbrev FoundText := Option (List Char) × List Char

/-- A character in front of what is left of a text. -/
def consChar (c : Char) (t : FoundText) : FoundText :=
  (t.1.map (c :: ·), t.2)

/-- A text up to its closing quote; none if it is not closed or not well formed. -/
def readText : Nat → List Char → Option FoundText
  | 0, _ => none
  | _, [] => none
  | _, '"' :: rest => some (some [], rest)
  | fuel + 1, '\\' :: 'u' :: a :: b :: c :: d :: rest =>
    match hexFour? a b c d with
    | none => none
    | some n =>
      if isLowSurrogate n then (readText fuel rest).map fun t => (none, t.2)
      else if isHighSurrogate n then
        match rest with
        | '\\' :: 'u' :: e :: f :: g :: h :: rest' =>
          match hexFour? e f g h with
          | none => none
          | some m =>
            if isLowSurrogate m then
              (readText fuel rest').map
                (consChar (Char.ofNat (0x10000 + (n - 0xD800) * 0x400 + (m - 0xDC00))))
            else (readText fuel rest).map fun t => (none, t.2)
        | _ => (readText fuel rest).map fun t => (none, t.2)
      else (readText fuel rest).map (consChar (Char.ofNat n))
  | fuel + 1, '\\' :: c :: rest =>
    match unescape? c with
    | some c => (readText fuel rest).map (consChar c)
    | none => none
  | fuel + 1, c :: rest => if c.toNat < 0x20 || c = '\\' then none
      else (readText fuel rest).map (consChar c)

/-- A text behind its opening quote. -/
def readQuoted (cs : List Char) : Option (Option String × List Char) :=
  (readText (cs.length + 1) cs).map fun (t, rest) => (t.map String.ofList, rest)

/-! ## Values -/

mutual

/-- A value at the start of a text, blanks before it aside. -/
def readValue : Nat → List Char → Found
  | 0, _ => breakOff
  | fuel + 1, cs =>
    match skipSpace cs with
    | 'n' :: rest => readWord ['u', 'l', 'l'] .null rest
    | 't' :: rest => readWord ['r', 'u', 'e'] (.bool true) rest
    | 'f' :: rest => readWord ['a', 'l', 's', 'e'] (.bool false) rest
    | '"' :: rest =>
      match readQuoted rest with
      | some (s, rest) => (.str s, some rest)
      | none => breakOff
    | '[' :: rest =>
      match skipSpace rest with
      | ']' :: rest => (.arr [], some rest)
      | rest =>
        let (items, rest) := readItems fuel rest
        (.arr items, rest)
    | '\x7b' :: rest =>
      match skipSpace rest with
      | '\x7d' :: rest => (.obj [], some rest)
      | rest =>
        let (members, rest) := readMembers fuel rest
        (.obj members, rest)
    | '-' :: rest => readNumber ['-'] rest
    | c :: rest => if c.isDigit then readNumber [] (c :: rest) else breakOff
    | [] => breakOff

/-- The items of a list from one item on, up to the closing bracket. -/
def readItems : Nat → List Char → List Json × Option (List Char)
  | 0, _ => ([.broken], none)
  | fuel + 1, cs =>
    match readValue fuel cs with
    | (j, none) => ([j], none)
    | (j, some rest) =>
      match skipSpace rest with
      | ']' :: rest => ([j], some rest)
      | ',' :: rest =>
        let (js, rest) := readItems fuel rest
        (j :: js, rest)
      | _ => ([j, .broken], none)

/-- The members of an object from one member on, up to the closing brace. -/
def readMembers : Nat → List Char → List (Option String × Json) × Option (List Char)
  | 0, _ => ([(none, .broken)], none)
  | fuel + 1, cs =>
    match skipSpace cs with
    | '"' :: rest =>
      match readQuoted rest with
      | none => ([(none, .broken)], none)
      | some (key, rest) =>
        match skipSpace rest with
        | ':' :: rest =>
          match readValue fuel rest with
          | (j, none) => ([(key, j)], none)
          | (j, some rest) =>
            match skipSpace rest with
            | '\x7d' :: rest => ([(key, j)], some rest)
            | ',' :: rest =>
              let (ms, rest) := readMembers fuel rest
              ((key, j) :: ms, rest)
            | _ => ([(key, j), (none, .broken)], none)
        | _ => ([(key, .broken)], none)
    | _ => ([(none, .broken)], none)

end

/-- The value at the start of a text, and whether only blanks follow it. -/
def readAll (s : String) : Json × Bool :=
  let cs := s.toList
  match readValue (2 * cs.length + 2) cs with
  | (j, none) => (j, false)
  | (j, some rest) => (j, (skipSpace rest).isEmpty)

/-- The value of a whole text. -/
def parse? (s : String) : Option Json :=
  match readAll s with
  | (j, true) => if j.isIntact then some j else none
  | (_, false) => none

end ClusterVolumes.Json
