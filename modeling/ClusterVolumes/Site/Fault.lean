import ClusterVolumes.Service

/-!
# Faults of collaborators

A fault makes the calls that it concerns fail: each of them, or one of them by its number. The call
fails before it has any effect, or `after` it had its effect. `Fault.strike` says what a list of
faults does to a call.
-/

namespace ClusterVolumes.Site

/-- A fault; `seen` counts the calls that it was asked about. -/
structure Fault where
  concerns : Call → Bool
  on : Option Nat := none
  after : Bool := false
  failure : Failure
  seen : Nat := 0

/-- What faults do to a call. -/
inductive Struck
  | spared
  | before (failure : Failure)
  | afterwards (failure : Failure)

namespace Fault

/-- Does the fault fire on a call that it concerns, the call counted? -/
def fires (f : Fault) : Bool :=
  match f.on with
  | none => true
  | some n => f.seen + 1 = n

/-- What faults do to a call, and the faults with the call counted. They are asked in turn, up to
the first one that fails the call before it has its effect. Of those that fail it afterwards the
first one counts. -/
def strike (c : Call) : List Fault → (late : Option Failure) → Struck × List Fault
  | [], none => (.spared, [])
  | [], some failure => (.afterwards failure, [])
  | f :: fs, late =>
    if f.concerns c then
      let counted := { f with seen := f.seen + 1 }
      if f.fires then
        if f.after then
          let (struck, rest) := strike c fs (late <|> some f.failure)
          (struck, counted :: rest)
        else (.before f.failure, counted :: fs)
      else
        let (struck, rest) := strike c fs late
        (struck, counted :: rest)
    else
      let (struck, rest) := strike c fs late
      (struck, f :: rest)

end Fault

end ClusterVolumes.Site
