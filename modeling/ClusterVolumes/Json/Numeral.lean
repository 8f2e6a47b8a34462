import ClusterVolumes.Json.Reader
import ClusterVolumes.Number.Binary64

/-!
# JSON numbers

A number that is written without a fraction or an exponent and fits 64 bits is an integer. Any other
is read as a binary floating point number from its leading digits, as many as fit 64 bits, and the
power of ten that is left (`Json.floatOf?`); it may be too great to be read at all.

`Json.numeral?` gives the text in which a number is shown.
-/

namespace ClusterVolumes.Json

/-- The greatest number of 64 bits. -/
def maxWord : Nat := UInt64.size - 1

/-- As many digits as fit 64 bits behind a number, and how many did not; once one does not fit, no
later one is taken. -/
def takeDigits (n : Nat) (dropped : Nat) : List Char → Nat × Nat
  | [] => (n, dropped)
  | c :: cs =>
    let n' := 10 * n + (c.toNat - 48)
    if dropped > 0 || n' > maxWord then takeDigits n (dropped + 1) cs else takeDigits n' 0 cs

/-- The exponent that is written behind a number; none if it is too great for 31 bits. -/
def exponentValue? : List Char → Option Int
  | '-' :: ds => (Text.readNat? ds).bind fun n => if n < 0x80000000 then some (-(n : Int)) else none
  | '+' :: ds => (Text.readNat? ds).bind fun n => if n < 0x80000000 then some (n : Int) else none
  | ds => (Text.readNat? ds).bind fun n => if n < 0x80000000 then some (n : Int) else none

/-- A number literal in its parts: its sign, whole part, fraction and exponent. -/
def literalParts (cs : List Char) : Bool × List Char × List Char × Option (List Char) :=
  let (negative, cs) := match cs with
    | '-' :: cs => (true, cs)
    | cs => (false, cs)
  let (whole, cs) := readRun cs
  let (fraction, cs) := match cs with
    | '.' :: cs => readRun cs
    | cs => ([], cs)
  match cs with
  | _ :: cs => (negative, whole, fraction, some cs)
  | [] => (negative, whole, fraction, none)

/-- The sign and the floating point number of a literal, none if it is too great. -/
def floatOf? (literal : String) : Option (Bool × Binary64) :=
  let (negative, whole, fraction, exponent) := literalParts literal.toList
  let (n, dropped) := takeDigits 0 0 whole
  let (significand, scale) : Nat × Int :=
    if dropped > 0 then
      let (n', lost) := takeDigits n 0 fraction
      (n', (dropped : Int) - ((fraction.length - lost : Nat) : Int))
    else
      let (n', lost) := takeDigits n 0 fraction
      (n', -((fraction.length - lost : Nat) : Int))
  match exponent with
  | none => (Binary64.ofParts significand scale).map (negative, ·)
  | some digits =>
    match exponentValue? digits with
    | some e => (Binary64.ofParts significand (scale + e)).map (negative, ·)
    | none =>
      if significand ≠ 0 && digits.head? != some '-' then none else some (negative, .zero)

/-- The text of a number, none if it is too great or no number. -/
def numeral? : Json → Option String
  | .nat n =>
    if n ≤ maxWord then some (toString n)
    else (floatOf? (toString n)).map fun (negative, x) => x.text negative
  | .decimal literal =>
    match literalParts literal.toList with
    | (true, whole, [], none) =>
      let n := (Text.readNat? whole).getD 0
      if 0 < n ∧ n ≤ 0x8000000000000000 then some ("-" ++ toString n)
      else (floatOf? literal).map fun (negative, x) => x.text negative
    | _ => (floatOf? literal).map fun (negative, x) => x.text negative
  | _ => none

end ClusterVolumes.Json
