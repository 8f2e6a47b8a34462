import ClusterVolumes.Text.Quoted

/-!
# Binary floating point with 53 digits

A positive finite value is `m · 2 ^ e` with `m < 2 ^ 53` and `-1074 ≤ e ≤ 971`.

- `Binary64.round` gives the value nearest to a quotient of natural numbers, the even one of two;
- `Binary64.ofParts` reads a decimal number from a natural number and a power of ten;
- `Binary64.shortest` gives the fewest decimal digits that read back as the value;
- `Binary64.text` writes them.
-/

namespace ClusterVolumes

/-- The value `m · 2 ^ e`. -/
structure Binary64 where
  m : Nat
  e : Int
  deriving DecidableEq, Repr

namespace Binary64

/-- Zero. -/
def zero : Binary64 := ⟨0, -1074⟩

/-- A quotient of natural numbers times `2 ^ e`, as a quotient. -/
def scale (num den : Nat) (e : Int) : Nat × Nat :=
  if e ≥ 0 then (num * Nat.pow 2 e.toNat, den) else (num, den * Nat.pow 2 (-e).toNat)

/-- The integer nearest to a quotient, the even one of two. -/
def nearest (num den : Nat) : Nat :=
  let q := num / den
  let twice := 2 * (num % den)
  if twice > den || (twice == den && q % 2 == 1) then q + 1 else q

/-- The exponent at which a positive quotient has 53 binary digits, but no less than the least
exponent. -/
def exponentOf (num den : Nat) : Int :=
  let guess : Int := (Nat.log2 num : Int) - (Nat.log2 den : Int) - 52
  let (n, d) := scale num den (-guess)
  max (-1074) (if n / d < Nat.pow 2 52 then guess - 1 else if n / d ≥ Nat.pow 2 53 then guess + 1 else guess)

/-- The value nearest to a quotient of natural numbers, none if it is too great. -/
def round (num den : Nat) : Option Binary64 :=
  if num = 0 then some zero
  else
    let e := exponentOf num den
    let (n, d) := scale num den (-e)
    let m := nearest n d
    let (m, e) := if m = Nat.pow 2 53 then (Nat.pow 2 52, e + 1) else (m, e)
    if e > 971 then none else some ⟨m, e⟩

/-- The value as a quotient of natural numbers. -/
def ratio (x : Binary64) : Nat × Nat :=
  scale x.m 1 x.e

/-- The rounded product with a power of ten. -/
def mulTen (x : Binary64) (k : Nat) : Option Binary64 := do
  let p ← round (Nat.pow 10 k) 1
  round (x.ratio.1 * p.ratio.1) (x.ratio.2 * p.ratio.2)

/-- The rounded quotient by a power of ten. -/
def divTen (x : Binary64) (k : Nat) : Option Binary64 := do
  let p ← round (Nat.pow 10 k) 1
  round (x.ratio.1 * p.ratio.2) (x.ratio.2 * p.ratio.1)

/-- Divide by `10 ^ 308` as long as the exponent lies below what one division covers. -/
def shrink : Nat → Binary64 → Nat → Option Binary64
  | 0, _, _ => some zero
  | fuel + 1, x, k =>
    if k ≤ 308 then x.divTen k
    else if x.m = 0 then some x
    else do shrink fuel (← x.divTen 308) (k - 308)

/-- The value read for `significand · 10 ^ exponent`: the significand is rounded, then scaled in one
step, or in steps of `10 ^ 308` downward. None if it is too great. -/
def ofParts (significand : Nat) (exponent : Int) : Option Binary64 := do
  let x ← round significand 1
  if exponent ≥ 0 then
    if exponent ≤ 308 then x.mulTen exponent.toNat
    else if x.m = 0 then some x else none
  else shrink 8 x (-exponent).toNat

/-! ## Shortest digits -/

/-- The ends of the interval of quotients that round to the value, as numerators over a common
denominator, and the numerator of the value itself. -/
def interval (x : Binary64) : Nat × Nat × Nat × Nat :=
  let below := if x.m = Nat.pow 2 52 && x.e > -1074 then 1 else 2
  let (n, d) := scale 1 4 x.e
  (n * (4 * x.m - below), n * (4 * x.m), n * (4 * x.m + 2), d)

/-- The point of the decimal grid with step `10 ^ k` that reads back as the value, the nearer one of
two. -/
def gridPoint? (x : Binary64) (k : Int) : Option Nat :=
  let (lo, mid, hi, d) := x.interval
  let (up, down) := if k ≥ 0 then (Nat.pow 10 k.toNat, 1) else (1, Nat.pow 10 (-k).toNat)
  let inside (q : Nat) : Bool :=
    let p := q * up * d
    if x.m % 2 = 0 then lo * down ≤ p && p ≤ hi * down else lo * down < p && p < hi * down
  let q := mid * down / (d * up)
  let r := mid * down % (d * up)
  match inside q, inside (q + 1) with
  | true, true => some (if 2 * r > d * up || (2 * r == d * up && q % 2 == 1) then q + 1 else q)
  | true, false => some q
  | false, true => some (q + 1)
  | false, false => none

/-- The first grid that holds a point, from a coarse one down to finer ones. -/
def search (x : Binary64) : Nat → Int → Nat × Int
  | 0, k => (0, k)
  | fuel + 1, k =>
    match x.gridPoint? k with
    | some q => if q = 0 then search x fuel (k - 1) else (q, k)
    | none => search x fuel (k - 1)

/-- The decimal digits of a number without the zeros at its end, and how many zeros those were. -/
def stripZeros : Nat → Nat → Int → Nat × Int
  | 0, q, k => (q, k)
  | fuel + 1, q, k => if q % 10 = 0 && q ≠ 0 then stripZeros fuel (q / 10) (k + 1) else (q, k)

/-- The fewest digits `q` that read back as a positive value written `q · 10 ^ k`, the nearest of
them. -/
def shortest (x : Binary64) : Nat × Int :=
  let (n, d) := x.ratio
  let length (n : Nat) : Int := (Nat.toDigits 10 n).length
  let (q, k) := search x 30 (length n - length d + 1)
  stripZeros 40 q k

/-- A number in decimal: without an exponent where the point lies among the first sixteen digits or
at most four zeros precede them, and with a point at least one digit behind it; else with an
exponent, and a point only if there is more than one digit. -/
def text (negative : Bool) (x : Binary64) : String :=
  let sign := if negative then "-" else ""
  if x.m = 0 then sign ++ "0.0"
  else
    let (q, k) := x.shortest
    let digits := Nat.toDigits 10 q
    let length : Int := digits.length
    let point := length + k
    let body : List Char :=
      if 0 ≤ k ∧ point ≤ 16 then digits ++ List.replicate k.toNat '0' ++ ['.', '0']
      else if 0 < point ∧ point ≤ 16 then
        digits.take point.toNat ++ ['.'] ++ digits.drop point.toNat
      else if -5 < point ∧ point ≤ 0 then ['0', '.'] ++ List.replicate (-point).toNat '0' ++ digits
      else
        let mantissa := if digits.length = 1 then digits
          else digits.take 1 ++ ['.'] ++ digits.drop 1
        mantissa ++ ['e'] ++ (toString (point - 1)).toList
    sign ++ String.ofList body

end Binary64

end ClusterVolumes
