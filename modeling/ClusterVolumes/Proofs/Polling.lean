import ClusterVolumes.Proofs.Courses
import ClusterVolumes.Proofs.Site.Answers
import Mathlib.Tactic.Common

/-!
# Waiting by looking again and again

A wait looks at something, and looks again after a pause until a look decides. Time passes in pauses only
(`History.elapsed`, which is what the clock of a site shows: `Site.clock_of_replays`), so the looks of a wait are taken
after 0, 1, 2, .. pauses (`Undecided.elapsed`). Before all of them stands the question whether the clock can show the
time at which the wait is over (`Begun`); if it cannot, the wait is broken off without a look
(`runsTo_deadline_bind`).

`Service.pollUntil` counts its looks, and so does `Service.pollPast`, which looks once more when it has counted to the
end. `pollUntil_eq_askInTime` and `pollPast_eq_askPastTime` say that they are the loops that look at a clock instead.
What all runs of such a wait are is then told from what the runs of one look are (`Looks`), by induction on the count
(`polls_of_looks`, `pollsPast_of_looks`).
-/

namespace ClusterVolumes

/-! ## Time -/

/-- How long the call takes: time passes in pauses only. -/
def Call.duration : Call → Nat
  | .sleep ms => ms
  | _ => 0

namespace History

/-- The time that passed along the exchanges. -/
def elapsed : History → Nat
  | [] => 0
  | e :: past => Call.duration e.request + elapsed past

@[simp] theorem elapsed_nil : elapsed [] = 0 := rfl

@[simp] theorem elapsed_cons (e : Program.Exchange collaborators) (past : History) :
    elapsed (e :: past) = Call.duration e.request + past.elapsed := rfl

@[simp] theorem elapsed_append (made past : History) : elapsed (made ++ past) = made.elapsed + past.elapsed := by
  induction made with
  | nil => simp
  | cons e made ih => rw [List.cons_append, elapsed_cons, elapsed_cons, ih, Nat.add_assoc]

/-- Calls that take no time let none pass. -/
theorem elapsed_eq_zero {past : History} (timeless : ∀ e ∈ past, Call.duration e.request = 0) : past.elapsed = 0 := by
  induction past with
  | nil => rfl
  | cons e past ih =>
    obtain ⟨first, others⟩ := List.forall_mem_cons.mp timeless
    rw [elapsed_cons, first, ih others]

end History

/-- A call is answered at a site when its duration is over. -/
theorem Site.clock_answer (c : Call) (s : Site) : (Site.answer c s).2.clock = s.clock + c.duration := by
  cases c with
  | cluster region r =>
    exact Site.serve_keeps (·.clock) (fun _ => rfl) (Site.askCluster_keeps _ (fun _ _ => rfl) region r) s
  | orchestrator r => exact Site.serve_keeps (·.clock) (fun _ => rfl) (fun _ => rfl) s
  | mounts r => exact Site.serve_keeps (·.clock) (fun _ => rfl) (fun _ => rfl) s
  | _ => rfl

/-- The time that passed along the exchanges is what the clock went on by. -/
theorem Site.clock_of_replays {s t : Site} {past : History}
    (replays : Program.Replays (I := collaborators) Site.answer s past t) : t.clock = s.clock + past.elapsed := by
  induction replays with
  | nil => rfl
  | @cons past t c _ ih =>
    have answered := Site.clock_answer c t
    rw [ih, Nat.add_assoc, Nat.add_comm (History.elapsed past)] at answered
    exact answered

namespace Service

variable {α : Type}

/-! ## Clocks -/

/-- Look as long as the clock shows no more than the limit, with a pause after each look that decides nothing. -/
def askInTime (timeout pause : Nat) (hp : 0 < pause) (question : Service (Option α)) (late : Failure) (clock : Nat) :
    Service α :=
  if clock ≤ timeout then do
    match ← question with
    | some a => pure a
    | none =>
      sleep pause
      askInTime timeout pause hp question late (clock + pause)
  else throw late
termination_by timeout + 1 - clock

/-- Look until a look decides, or decides nothing while the clock shows more than the limit, with a pause after each
other look. -/
def askPastTime (timeout pause : Nat) (hp : 0 < pause) (question : Service (Option α)) (late : Failure) (clock : Nat) :
    Service α := do
  match ← question with
  | some a => pure a
  | none =>
    if clock ≤ timeout then
      sleep pause
      askPastTime timeout pause hp question late (clock + pause)
    else throw late
termination_by timeout + 1 - clock

/-- Counted looks, and one more if they decide nothing. -/
def pollOnceMore (pause : Nat) (question : Service (Option α)) (n : Nat) : Service (Option α) := do
  match ← poll pause question n with
  | some a => pure (some a)
  | none => question

/-- Look until an answer decides, or fail when a look after the time is over has decided nothing. -/
def pollPast (timeout pause : Nat) (question : Service (Option α)) (late : Failure) : Service α := do
  deadline timeout
  require (← pollOnceMore pause question (attempts timeout pause)) late

/-- How many looks are taken from a time on until the clock shows more than the limit. -/
def looksFrom (timeout pause clock : Nat) : Nat :=
  if clock ≤ timeout then (timeout - clock) / pause + 1 else 0

theorem looksFrom_zero {timeout pause : Nat} (hp : 0 < pause) : looksFrom timeout pause 0 = attempts timeout pause := by
  unfold looksFrom attempts
  rw [if_pos (Nat.zero_le _), if_neg (by omega), Nat.sub_zero]

/-- After a look in time there is one less to come. -/
theorem looksFrom_next {timeout pause clock : Nat} (hp : 0 < pause) (h : clock ≤ timeout) :
    looksFrom timeout pause clock = looksFrom timeout pause (clock + pause) + 1 := by
  unfold looksFrom
  rw [if_pos h]
  split
  · rename_i more
    rw [Nat.div_eq_sub_div hp (by omega), Nat.sub_add_eq]
  · rename_i last
    rw [Nat.div_eq_of_lt (by omega)]

theorem looksFrom_late {timeout pause clock : Nat} (h : ¬clock ≤ timeout) : looksFrom timeout pause clock = 0 :=
  if_neg h

variable {timeout pause : Nat} {question : Service (Option α)} {late : Failure}

/-- The looks that a clock allows are counted looks. -/
theorem askInTime_eq_poll (hp : 0 < pause) (clock : Nat) :
    askInTime timeout pause hp question late clock =
      (poll pause question (looksFrom timeout pause clock) >>= fun o => require o late) := by
  -- by induction on the time that is left
  fun_induction askInTime timeout pause hp question late clock with
  | case1 clock inTime ih =>
    rw [looksFrom_next hp inTime, poll]
    simp only [bind_assoc]
    refine bind_congr fun o => ?_
    cases o with
    | some a => rfl
    | none => simp only [bind_assoc, ih]
  | case2 clock late =>
    rw [looksFrom_late late]
    rfl

theorem pollUntil_eq_askInTime (hp : 0 < pause) :
    pollUntil timeout pause question late = (do
      deadline timeout
      askInTime timeout pause hp question late 0) := by
  rw [askInTime_eq_poll, looksFrom_zero hp, pollUntil]

/-- The looks that a clock allows, with the one that it does not allow any more, are counted looks and one more. -/
theorem askPastTime_eq_poll (hp : 0 < pause) (clock : Nat) :
    askPastTime timeout pause hp question late clock =
      (pollOnceMore pause question (looksFrom timeout pause clock) >>= fun o => require o late) := by
  fun_induction askPastTime timeout pause hp question late clock with
  | case1 clock ih =>
    by_cases inTime : clock ≤ timeout
    · rw [looksFrom_next hp inTime, pollOnceMore, poll]
      simp only [bind_assoc]
      refine bind_congr fun o => ?_
      cases o with
      | some a => rfl
      | none => simp only [bind_assoc, ih inTime, if_pos inTime, pollOnceMore]
    · rw [looksFrom_late inTime, pollOnceMore, poll, pure_bind]
      refine bind_congr fun o => ?_
      cases o with
      | some a => rfl
      | none => exact if_neg inTime

theorem pollPast_eq_askPastTime (hp : 0 < pause) :
    pollPast timeout pause question late = (do
      deadline timeout
      askPastTime timeout pause hp question late 0) := by
  rw [askPastTime_eq_poll, looksFrom_zero hp, pollPast]

/-! ## Runs -/

/-- What one look of a wait comes to, whatever is answered: `look` tells the exact runs, and no time passes. -/
structure Looks (question : Service (Option α)) (look : Except Failure (Option α) → History → Prop) : Prop where
  runs_iff : ∀ outcome made, question.RunsTo anyAnswers [] outcome made ↔ look outcome made
  timeless : ∀ outcome made, look outcome made → made.elapsed = 0

section

variable (look : Except Failure (Option α) → History → Prop) (pause : Nat)

/-- A number of looks that decided nothing, with a pause after each of them. -/
inductive Undecided : Nat → History → Prop
  | none : Undecided 0 []
  | first {n : Nat} {made rest : History} :
      look (.ok none) made → Undecided n rest → Undecided (n + 1) (rest ++ ⟨.sleep pause, ()⟩ :: made)

/-- Looks that decided nothing, a number of which is such as `few` says, and one that came to an outcome. -/
def DecidedAfter (few : Nat → Prop) (outcome : Except Failure (Option α)) (made : History) : Prop :=
  ∃ n past last, few n ∧ Undecided look pause n past ∧ look outcome last ∧ made = last ++ past

end

/-- As many pauses have passed as looks were taken. -/
theorem Undecided.elapsed {look : Except Failure (Option α) → History → Prop} {n : Nat} {past : History}
    (looks : Looks question look) (h : Undecided look pause n past) : past.elapsed = n * pause := by
  induction h with
  | none => simp
  | @first n made rest undecided _ ih =>
    rw [History.elapsed_append, History.elapsed_cons, ih, looks.timeless _ _ undecided, Nat.succ_mul]
    rfl

/-- The look that decides is taken after one of so many pauses, and takes no time itself. -/
theorem DecidedAfter.elapsed {look : Except Failure (Option α) → History → Prop} {few : Nat → Prop}
    {outcome : Except Failure (Option α)} {made : History} (looks : Looks question look)
    (h : DecidedAfter look pause few outcome made) : ∃ n, few n ∧ made.elapsed = n * pause := by
  obtain ⟨n, past, last, hn, before, looked, rfl⟩ := h
  refine ⟨n, hn, ?_⟩
  rw [History.elapsed_append, before.elapsed looks, looks.timeless _ _ looked, Nat.zero_add]

variable {look : Except Failure (Option α) → History → Prop}

/-- A pause is over after one call. -/
theorem runsTo_pause_bind {β : Type} {next : Unit → Service β} {outcome : Except Failure β} {past now : History} :
    (sleep pause >>= next).RunsTo anyAnswers past outcome now ↔
      (next ()).RunsTo anyAnswers (⟨.sleep pause, ()⟩ :: past) outcome now := by
  refine runsTo_bind.trans ⟨?_, fun run => .inl ⟨(), _, runsTo_sleep.mpr ⟨(), rfl, rfl⟩, run⟩⟩
  rintro (⟨_, u, slept, run⟩ | ⟨f, -, slept⟩)
  · obtain ⟨x, -, rfl⟩ := runsTo_sleep.mp slept
    exact run
  · obtain ⟨x, e, -⟩ := runsTo_sleep.mp slept
    cases e

/-- The first look decides or fails, or after a pause the wait goes on with one look less. -/
theorem runsTo_poll_succ (looks : Looks question look) {n : Nat} {outcome : Except Failure (Option α)}
    {made : History} : (poll pause question (n + 1)).RunsTo anyAnswers [] outcome made ↔
      (outcome ≠ .ok none ∧ look outcome made) ∨
        ∃ first rest, look (.ok none) first ∧ (poll pause question n).RunsTo anyAnswers [] outcome rest ∧
          made = rest ++ ⟨.sleep pause, ()⟩ :: first := by
  rw [poll, runsTo_bind]
  constructor
  · rintro (⟨o, u, asked, rest⟩ | ⟨f, rfl, asked⟩)
    · have looked := (looks.runs_iff _ _).mp asked
      cases o with
      | some a =>
        obtain ⟨rfl, rfl⟩ := runsTo_pure.mp rest
        exact .inl ⟨nofun, looked⟩
      | none =>
        obtain ⟨more, run, rfl⟩ := runsTo_later.mp (runsTo_pause_bind.mp rest)
        exact .inr ⟨u, more, looked, run, rfl⟩
    · exact .inl ⟨nofun, (looks.runs_iff _ _).mp asked⟩
  · rintro (⟨decided, looked⟩ | ⟨first, rest, looked, run, rfl⟩)
    · have asked := (looks.runs_iff _ _).mpr looked
      match outcome with
      | .error f => exact .inr ⟨f, rfl, asked⟩
      | .ok (some a) => exact .inl ⟨some a, made, asked, runsTo_pure.mpr ⟨rfl, rfl⟩⟩
      | .ok none => exact absurd rfl decided
    · refine .inl ⟨none, first, (looks.runs_iff _ _).mpr looked, ?_⟩
      exact runsTo_pause_bind.mpr (runsTo_later.mpr ⟨rest, run, rfl⟩)

/-- A wait of so many looks decides or fails with one of them, -/
theorem runsTo_poll_decided (looks : Looks question look) {k : Nat} {outcome : Except Failure (Option α)}
    (decided : outcome ≠ .ok none) : ∀ {made : History},
      (poll pause question k).RunsTo anyAnswers [] outcome made ↔ DecidedAfter look pause (· < k) outcome made := by
  induction k with
  | zero =>
    intro made
    refine iff_of_false (fun run => decided (runsTo_pure.mp run).1) ?_
    rintro ⟨n, past, last, few, -⟩
    exact absurd few (Nat.not_lt_zero n)
  | succ k ih =>
    intro made
    rw [runsTo_poll_succ looks]
    constructor
    · rintro (⟨-, looked⟩ | ⟨first, rest, undecided, run, rfl⟩)
      · exact ⟨0, [], made, Nat.succ_pos k, .none, looked, by simp⟩
      · obtain ⟨n, past, last, few, before, looked, rfl⟩ := ih.mp run
        exact ⟨n + 1, _, last, Nat.succ_lt_succ few, .first undecided before, looked, by simp⟩
    · rintro ⟨n, past, last, few, before, looked, rfl⟩
      cases before with
      | none => exact .inl ⟨decided, by simpa using looked⟩
      | @first n first rest undecided before =>
        refine .inr ⟨first, last ++ rest, undecided, ih.mpr ?_, by simp⟩
        exact ⟨n, rest, last, Nat.lt_of_succ_lt_succ few, before, looked, rfl⟩

/-- or none of them decides anything. -/
theorem runsTo_poll_undecided (looks : Looks question look) {k : Nat} : ∀ {made : History},
    (poll pause question k).RunsTo anyAnswers [] (.ok none) made ↔ Undecided look pause k made := by
  induction k with
  | zero =>
    intro made
    constructor
    · intro run
      obtain ⟨-, rfl⟩ := runsTo_pure.mp run
      exact .none
    · intro before
      cases before
      exact runsTo_pure.mpr ⟨rfl, rfl⟩
  | succ k ih =>
    intro made
    rw [runsTo_poll_succ looks]
    constructor
    · rintro (⟨decided, -⟩ | ⟨first, rest, undecided, run, rfl⟩)
      · exact absurd rfl decided
      · exact .first undecided (ih.mp run)
    · intro before
      cases before with
      | first undecided before => exact .inr ⟨_, _, undecided, ih.mpr before, rfl⟩

/-- One more look than so many decides or fails if they do not, or decides nothing either. -/
theorem runsTo_pollOnceMore (looks : Looks question look) {k : Nat} {outcome : Except Failure (Option α)}
    {made : History} : (pollOnceMore pause question k).RunsTo anyAnswers [] outcome made ↔
      (outcome ≠ .ok none ∧ DecidedAfter look pause (· < k) outcome made) ∨
        DecidedAfter look pause (· = k) outcome made := by
  rw [pollOnceMore, runsTo_bind]
  constructor
  · rintro (⟨o, u, asked, rest⟩ | ⟨f, rfl, asked⟩)
    · cases o with
      | some a =>
        obtain ⟨rfl, rfl⟩ := runsTo_pure.mp rest
        exact .inl ⟨nofun, (runsTo_poll_decided looks (by simp)).mp asked⟩
      | none =>
        obtain ⟨last, run, rfl⟩ := runsTo_later.mp rest
        have before := (runsTo_poll_undecided looks).mp asked
        exact .inr ⟨k, u, last, rfl, before, (looks.runs_iff _ _).mp run, rfl⟩
    · exact .inl ⟨nofun, (runsTo_poll_decided looks (by simp)).mp asked⟩
  · rintro (⟨decided, after⟩ | ⟨n, past, last, rfl, before, looked, rfl⟩)
    · have asked := (runsTo_poll_decided looks decided).mpr after
      match outcome with
      | .error f => exact .inr ⟨f, rfl, asked⟩
      | .ok (some a) => exact .inl ⟨some a, made, asked, runsTo_pure.mpr ⟨rfl, rfl⟩⟩
      | .ok none => exact absurd rfl decided
    · refine .inl ⟨none, past, (runsTo_poll_undecided looks).mpr before, ?_⟩
      exact runsTo_later.mpr ⟨last, (looks.runs_iff _ _).mpr looked, rfl⟩

/-- Counted looks are over when there was a pause after each of them. -/
theorem elapsed_poll (looks : Looks question look) {k : Nat} {outcome : Except Failure (Option α)} {made : History}
    (run : (poll pause question k).RunsTo anyAnswers [] outcome made) : made.elapsed ≤ k * pause := by
  by_cases undecided : outcome = .ok none
  · rw [undecided] at run
    exact Nat.le_of_eq (((runsTo_poll_undecided looks).mp run).elapsed looks)
  · obtain ⟨n, few, elapsed⟩ := ((runsTo_poll_decided looks undecided).mp run).elapsed looks
    rw [elapsed]
    exact Nat.mul_le_mul_right pause (Nat.le_of_lt few)

/-- One more look takes no time. -/
theorem elapsed_pollOnceMore (looks : Looks question look) {k : Nat} {outcome : Except Failure (Option α)}
    {made : History} (run : (pollOnceMore pause question k).RunsTo anyAnswers [] outcome made) :
    made.elapsed ≤ k * pause := by
  obtain ⟨n, few, elapsed⟩ : ∃ n, n ≤ k ∧ made.elapsed = n * pause := by
    rcases (runsTo_pollOnceMore looks).mp run with ⟨-, after⟩ | after
    · obtain ⟨n, few, elapsed⟩ := after.elapsed looks
      exact ⟨n, Nat.le_of_lt few, elapsed⟩
    · obtain ⟨n, last, elapsed⟩ := after.elapsed looks
      exact ⟨n, Nat.le_of_eq last, elapsed⟩
  rw [elapsed]
  exact Nat.mul_le_mul_right pause few

/-! ## Waits -/

/-- The exchanges of a wait: the clock can show the time at which it is over, and the rest is as `wait` says. -/
def Begun (timeout : Nat) (wait : History → Prop) (made : History) : Prop :=
  ∃ waited, wait waited ∧ made = waited ++ [⟨.deadline timeout, true⟩]

/-- If the clock can show the time at which a wait is over, the wait goes on, and otherwise it is broken off. -/
theorem runsTo_deadline_bind {β : Type} {next : Unit → Service β} {outcome : Except Failure β} {made : History} :
    (deadline timeout >>= next).RunsTo anyAnswers [] outcome made ↔
      Begun timeout (fun waited => (next ()).RunsTo anyAnswers [] outcome waited) made ∨
        outcome = .error .clockOverflow ∧ made = [⟨.deadline timeout, false⟩] := by
  rw [runsTo_bind]
  constructor
  · rintro (⟨_, u, asked, rest⟩ | ⟨f, rfl, asked⟩)
    · rcases runsTo_deadline.mp asked with ⟨-, rfl⟩ | ⟨same, -⟩
      · exact .inl (runsTo_later.mp rest)
      · cases same
    · rcases runsTo_deadline.mp asked with ⟨same, -⟩ | ⟨same, rfl⟩
      · cases same
      · cases same
        exact .inr ⟨rfl, rfl⟩
  · rintro (begun | ⟨rfl, rfl⟩)
    · exact .inl ⟨(), _, runsTo_deadline.mpr (.inl ⟨rfl, rfl⟩), runsTo_later.mpr begun⟩
    · exact .inr ⟨_, rfl, runsTo_deadline.mpr (.inr ⟨rfl, rfl⟩)⟩

/-- What must be decided ends with what was decided, fails as it does, or is late. -/
theorem runsTo_decided {service : Service (Option α)} {outcome : Except Failure α} {made : History} :
    (service >>= fun o => require o late).RunsTo anyAnswers [] outcome made ↔
      (∃ a, outcome = .ok a ∧ service.RunsTo anyAnswers [] (.ok (some a)) made) ∨
        (∃ f, outcome = .error f ∧ service.RunsTo anyAnswers [] (.error f) made) ∨
          outcome = .error late ∧ service.RunsTo anyAnswers [] (.ok none) made := by
  simp only [runsTo_bind, runsTo_require]
  constructor
  · rintro (⟨o, u, asked, rfl, rfl⟩ | failed)
    · cases o with
      | some a => exact .inl ⟨a, rfl, asked⟩
      | none => exact .inr (.inr ⟨rfl, asked⟩)
    · exact .inr (.inl failed)
  · rintro (⟨a, rfl, asked⟩ | failed | ⟨rfl, asked⟩)
    · exact .inl ⟨some a, made, asked, rfl, rfl⟩
    · exact .inr failed
    · exact .inl ⟨none, made, asked, rfl, rfl⟩

/-- No call is made for what must be decided. -/
theorem runs_of_decided {service : Service (Option α)} {outcome : Except Failure α} {made : History}
    (run : (service >>= fun o => require o late).RunsTo anyAnswers [] outcome made) :
    ∃ o, service.RunsTo anyAnswers [] o made := by
  rcases runsTo_decided.mp run with ⟨a, -, run⟩ | ⟨f, -, run⟩ | ⟨-, run⟩
  · exact ⟨_, run⟩
  · exact ⟨_, run⟩
  · exact ⟨_, run⟩

/-- A wait up to a time limit.
- `clocked`: when it has begun, it looks as long as the clock shows no more than the limit, with a pause after each look;
- `timeless`, `times`: a look takes no time, so the looks are taken after 0, 1, 2, .. pauses;
- `succeeds_iff`: it succeeds exactly with the first look that decides anything, if that is taken in time;
- `fails_iff`: it fails exactly with the first look that fails, if nothing was decided before and it is taken in time,
  or with `late`, if all looks in time have decided nothing and the pause after the last one is over, or without a look,
  if the clock cannot show the time at which the wait is over;
- `ends`: so it is over when that pause is;
- `begun_iff`: at a site it begins exactly if the clock of the site can show that time. -/
structure Polls (service : Service α) (question : Service (Option α))
    (look : Except Failure (Option α) → History → Prop) (timeout pause : Nat) (late : Failure) : Prop where
  clocked : ∀ hp : 0 < pause, service = (do
    deadline timeout
    askInTime timeout pause hp question late 0)
  timeless : ∀ outcome made, look outcome made → made.elapsed = 0
  times : ∀ n past, Undecided look pause n past → past.elapsed = n * pause
  succeeds_iff : ∀ a made, service.RunsTo anyAnswers [] (.ok a) made ↔
    Begun timeout (DecidedAfter look pause (fun n => n * pause ≤ timeout) (.ok (some a))) made
  fails_iff : ∀ f made, service.RunsTo anyAnswers [] (.error f) made ↔
    Begun timeout (fun waited => DecidedAfter look pause (fun n => n * pause ≤ timeout) (.error f) waited ∨
      f = late ∧ Undecided look pause (timeout / pause + 1) waited) made ∨
      f = .clockOverflow ∧ made = [⟨.deadline timeout, false⟩]
  ends : ∀ outcome made, service.RunsTo anyAnswers [] outcome made → made.elapsed ≤ (timeout / pause + 1) * pause
  begun_iff : ∀ s : Site,
    Begun timeout (fun _ => True) (Site.exchanges service s) ↔ s.clock + timeout < Site.clockEnd

/-- A wait that looks once more when its time is over: it succeeds and fails with one of the looks in time or with the
one after them, and with `late` if that one has decided nothing either. -/
structure PollsPast (service : Service α) (question : Service (Option α))
    (look : Except Failure (Option α) → History → Prop) (timeout pause : Nat) (late : Failure) : Prop where
  clocked : ∀ hp : 0 < pause, service = (do
    deadline timeout
    askPastTime timeout pause hp question late 0)
  timeless : ∀ outcome made, look outcome made → made.elapsed = 0
  times : ∀ n past, Undecided look pause n past → past.elapsed = n * pause
  succeeds_iff : ∀ a made, service.RunsTo anyAnswers [] (.ok a) made ↔
    Begun timeout (DecidedAfter look pause (· ≤ timeout / pause + 1) (.ok (some a))) made
  fails_iff : ∀ f made, service.RunsTo anyAnswers [] (.error f) made ↔
    Begun timeout (fun waited => DecidedAfter look pause (· ≤ timeout / pause + 1) (.error f) waited ∨
      f = late ∧ DecidedAfter look pause (· = timeout / pause + 1) (.ok none) waited) made ∨
      f = .clockOverflow ∧ made = [⟨.deadline timeout, false⟩]
  ends : ∀ outcome made, service.RunsTo anyAnswers [] outcome made → made.elapsed ≤ (timeout / pause + 1) * pause
  begun_iff : ∀ s : Site,
    Begun timeout (fun _ => True) (Site.exchanges service s) ↔ s.clock + timeout < Site.clockEnd

theorem attempts_eq (hp : 0 < pause) : attempts timeout pause = timeout / pause + 1 :=
  if_neg (by omega)

/-- The counted looks are those in time. -/
theorem decidedAfter_attempts (hp : 0 < pause) {outcome : Except Failure (Option α)} {made : History} :
    DecidedAfter look pause (· < attempts timeout pause) outcome made ↔
      DecidedAfter look pause (fun n => n * pause ≤ timeout) outcome made := by
  have inTime (n : Nat) : n < attempts timeout pause ↔ n * pause ≤ timeout := by
    rw [attempts_eq hp, Nat.lt_succ_iff, Nat.le_div_iff_mul_le hp]
  simp only [DecidedAfter, inTime]

/-- The look after the counted ones is one of so many. -/
theorem decidedAfter_le {k : Nat} {outcome : Except Failure (Option α)} {made : History} :
    DecidedAfter look pause (· ≤ k) outcome made ↔
      DecidedAfter look pause (· < k) outcome made ∨ DecidedAfter look pause (· = k) outcome made := by
  simp only [DecidedAfter, Nat.le_iff_lt_or_eq, or_and_right, exists_or]

/-- A wait begins at a site exactly if the clock can show the time at which it is over. -/
theorem begun_exchanges_iff {next : Unit → Service α} (s : Site) :
    Begun timeout (fun _ => True) (Site.exchanges (deadline timeout >>= next) s) ↔
      s.clock + timeout < Site.clockEnd := by
  -- the first exchange is the answer to the question about that time
  have asked {shown : Bool} (waited : History)
      (made : Site.exchanges (deadline timeout >>= next) s = waited ++ [⟨.deadline timeout, shown⟩]) :
      shown = decide (s.clock + timeout < Site.clockEnd) := by
    have replays := Site.replays_exchanges (deadline timeout >>= next) s
    rw [made] at replays
    obtain ⟨u, first, -⟩ := replays.parts
    obtain ⟨t, start, answered⟩ := first.latest
    cases start
    exact (congrArg Prod.fst answered).symm
  constructor
  · rintro ⟨waited, -, made⟩
    exact of_decide_eq_true (asked waited made).symm
  · intro inTime
    rcases runsTo_deadline_bind.mp (Site.runsTo_exchanges (deadline timeout >>= next) s) with
      ⟨waited, -, made⟩ | ⟨-, made⟩
    · exact ⟨waited, trivial, made⟩
    · have answered : false = decide (s.clock + timeout < Site.clockEnd) := asked [] made
      rw [decide_eq_true inTime] at answered
      cases answered

/-- A wait takes as long as what comes after its beginning. -/
theorem elapsed_deadline_bind {β : Type} {next : Unit → Service β} {outcome : Except Failure β} {made : History}
    {limit : Nat} (run : (deadline timeout >>= next).RunsTo anyAnswers [] outcome made)
    (rest : ∀ waited, (next ()).RunsTo anyAnswers [] outcome waited → waited.elapsed ≤ limit) :
    made.elapsed ≤ limit := by
  rcases runsTo_deadline_bind.mp run with ⟨waited, begun, rfl⟩ | ⟨-, rfl⟩
  · rw [History.elapsed_append]
    exact rest waited begun
  · exact Nat.zero_le _

theorem polls_of_looks (hp : 0 < pause) (looks : Looks question look) :
    Polls (pollUntil timeout pause question late) question look timeout pause late where
  clocked _ := pollUntil_eq_askInTime hp
  timeless := looks.timeless
  times _ _ before := before.elapsed looks
  succeeds_iff := by
    intro a made
    rw [pollUntil, runsTo_deadline_bind]
    simp [runsTo_decided, runsTo_poll_decided looks, ← decidedAfter_attempts hp, Begun]
  fails_iff := by
    intro f made
    rw [pollUntil, runsTo_deadline_bind]
    simp [runsTo_decided, runsTo_poll_decided looks, runsTo_poll_undecided looks, ← decidedAfter_attempts hp,
      ← attempts_eq hp, Begun]
  ends := by
    intro outcome made run
    refine elapsed_deadline_bind run fun waited run => ?_
    obtain ⟨o, asked⟩ := runs_of_decided run
    rw [attempts_eq hp] at asked
    exact elapsed_poll looks asked
  begun_iff := begun_exchanges_iff

theorem pollsPast_of_looks (hp : 0 < pause) (looks : Looks question look) :
    PollsPast (pollPast timeout pause question late) question look timeout pause late where
  clocked _ := pollPast_eq_askPastTime hp
  timeless := looks.timeless
  times _ _ before := before.elapsed looks
  succeeds_iff := by
    intro a made
    rw [pollPast, runsTo_deadline_bind]
    simp [runsTo_decided, runsTo_pollOnceMore looks, decidedAfter_le, ← attempts_eq hp, Begun]
  fails_iff := by
    intro f made
    rw [pollPast, runsTo_deadline_bind]
    simp [runsTo_decided, runsTo_pollOnceMore looks, decidedAfter_le, ← attempts_eq hp, Begun]
  ends := by
    intro outcome made run
    refine elapsed_deadline_bind run fun waited run => ?_
    obtain ⟨o, asked⟩ := runs_of_decided run
    rw [attempts_eq hp] at asked
    exact elapsed_pollOnceMore looks asked
  begun_iff := begun_exchanges_iff

end Service

end ClusterVolumes
