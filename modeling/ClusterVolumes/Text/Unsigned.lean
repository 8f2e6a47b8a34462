/-!
# Unsigned numbers in decimal

`Text.readUnsigned limit` reads an optional `+` and at least one ASCII digit, of a number up to the
limit.
-/

namespace ClusterVolumes.Text

/-- The value of a digit. -/
def digitValue? (c : Char) : Option Nat :=
  if '0' ≤ c ∧ c ≤ '9' then some (c.toNat - 48) else none

/-- The number that digits write behind the number `n`. -/
def readDigits (n : Nat) : List Char → Option Nat
  | [] => some n
  | c :: cs => do readDigits (10 * n + (← digitValue? c)) cs

/-- The number that at least one digit writes. -/
def readNat? : List Char → Option Nat
  | [] => none
  | cs => readDigits 0 cs

/-- The number that a text writes, if it is at most the limit. -/
def readUnsigned (limit : Nat) (s : String) : Option Nat := do
  let n ← match s.toList with
    | '+' :: cs => readNat? cs
    | cs => readNat? cs
  if n ≤ limit then some n else none

end ClusterVolumes.Text
