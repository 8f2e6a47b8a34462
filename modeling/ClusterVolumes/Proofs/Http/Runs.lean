import ClusterVolumes.Http.Message
import ClusterVolumes.Proofs.Runs

/-!
# Runs of exchanges with a server

An exchange with a server is a program that may fail. `Sent` is what was sent so far with the replies, and
`runsTo_bind` says how a run of a sequence of exchanges comes to its outcome, whatever the server replies.
-/

namespace ClusterVolumes.Http

/-- The requests to a server so far with their replies, the latest first. -/
abbrev Sent : Type := List (Program.Exchange server)

variable {α β : Type}

/-- A run of a sequence goes on with the value of its first part, or ends with its failure. -/
theorem runsTo_bind {x : Exchange α} {f : α → Exchange β} {past t : Sent} {outcome : Except Failure β} :
    (x >>= f).run.RunsTo Program.anyAnswers past outcome t ↔
      (∃ a u, x.run.RunsTo Program.anyAnswers past (.ok a) u ∧ (f a).run.RunsTo Program.anyAnswers u outcome t) ∨
        ∃ e, outcome = .error e ∧ x.run.RunsTo Program.anyAnswers past (.error e) t :=
  Program.runsTo_exceptBind

end ClusterVolumes.Http
