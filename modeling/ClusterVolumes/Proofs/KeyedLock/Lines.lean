import ClusterVolumes.Proofs.KeyedLock
import Mathlib.Data.List.Find
import Mathlib.Data.List.Perm.Basic

/-!
# Lines of keyed locks

To those who ask for one key, the locks look like a single line: one of them is at the head and the others wait behind.
A `Move` is what a party does, to ask or to leave, and after each move all locks that can be had are handed out. A
`Turn` is a move with what came of it.

- `Line` is the line of one key with its moves, and `lineOf` is the line of a key among all locks;
- `Counted.settle`: after a move only its own key can be waited for and not held, and handing on serves its line;
- `Ready.own`, `Ready.other`: a move is a move in the line of its key, and no other line moves; so the turns of a key
  are the turns of its line (`Ready.turns_filter`);
- in a line the requests are granted in the order of asking (`Line.turns_in_order`), hence for every key
  (`keys_independent`).
-/

namespace ClusterVolumes

namespace KeyedLock

/-- What a party does: it asks for its lock, or it leaves. It leaves by unlocking what it holds, by dropping its guard,
or by being cancelled while it waits. -/
inductive Move where
  | ask (name : String)
  | leave (name : String)
  deriving DecidableEq, Repr

/-- The party that makes a move. -/
def Move.name : Move → String
  | ask name | leave name => name

/-- The requests among some moves, in order. -/
def asked (moves : List Move) : List String :=
  moves.filterMap fun
    | .ask name => some name
    | .leave _ => none

/-- A move, who got a lock when it had settled, and who gave up waiting by it. -/
structure Turn where
  move : Move
  granted : List String
  cancelled : List String
  deriving DecidableEq, Repr

/-! ## One line -/

/-- Who holds one lock and who waits for it, by name. -/
structure Line where
  holding : List String := []
  waiting : List String := []
  deriving DecidableEq, Repr

namespace Line

/-- A move before the lock is handed on. -/
def act (q : Line) : Move → Line
  | .ask name => { q with waiting := q.waiting ++ [name] }
  | .leave name =>
    if name ∈ q.holding then { q with holding := q.holding.erase name }
    else { q with waiting := q.waiting.erase name }

/-- Who gives up waiting by a move. -/
def gaveUp (q : Line) : Move → List String
  | .ask _ => []
  | .leave name => if name ∈ q.holding then [] else if name ∈ q.waiting then [name] else []

/-- Hand the lock to the first who waits if nobody has it, and say who got it. -/
def serve : Line → List String × Line
  | ⟨[], name :: rest⟩ => ([name], ⟨[name], rest⟩)
  | q => ([], q)

/-- What comes of a move. -/
def turn (q : Line) (m : Move) : Turn :=
  ⟨m, (q.act m).serve.1, q.gaveUp m⟩

/-- The line when a move has settled. -/
def next (q : Line) (m : Move) : Line :=
  (q.act m).serve.2

/-- What comes of some moves. -/
def turns : Line → List Move → List Turn
  | _, [] => []
  | q, m :: ms => q.turn m :: (q.next m).turns ms

/-- The line after some moves. -/
def after (q : Line) (moves : List Move) : Line :=
  moves.foldl next q

theorem serve_waiting (q : Line) : q.waiting = q.serve.1 ++ q.serve.2.waiting := by
  rcases q with ⟨_ | ⟨holder, holding⟩, _ | ⟨name, rest⟩⟩ <;> rfl

/-- A lock that somebody has is not handed on, nor one that nobody waits for. -/
theorem serve_eq_self {q : Line} (served : q.waiting ≠ [] → q.holding ≠ []) : q.serve = ([], q) := by
  rcases q with ⟨_ | ⟨holder, holding⟩, _ | ⟨name, rest⟩⟩
  · rfl
  · exact absurd rfl (served (List.cons_ne_nil _ _))
  · rfl
  · rfl

theorem asked_cons (m : Move) (ms : List Move) : asked (m :: ms) = asked [m] ++ asked ms := by
  cases m <;> rfl

/-- Those who wait after a move are those before with the one who asked, without the one who gave up. -/
theorem act_waiting (q : Line) (m : Move) :
    (q.act m).waiting.Sublist (q.waiting ++ asked [m]) ∧
      (q.waiting ++ asked [m]).Perm (q.gaveUp m ++ (q.act m).waiting) := by
  cases m with
  | ask name => simp [act, gaveUp, asked]
  | leave name =>
    by_cases holds : name ∈ q.holding
    · simp [act, gaveUp, asked, holds]
    · by_cases waits : name ∈ q.waiting
      · simp [act, gaveUp, asked, holds, waits, List.erase_sublist, List.perm_cons_erase]
      · simp [act, gaveUp, asked, holds, waits, List.erase_of_not_mem]

/-- **Requests are granted in the order of asking**: those who got the lock and those who still wait, one after the
other, are the requests in their order, without those that were given up. -/
theorem turns_in_order (q : Line) (moves : List Move) :
    ((q.turns moves).flatMap Turn.granted ++ (q.after moves).waiting).Sublist (q.waiting ++ asked moves) ∧
      (q.waiting ++ asked moves).Perm ((q.turns moves).flatMap Turn.cancelled ++
        ((q.turns moves).flatMap Turn.granted ++ (q.after moves).waiting)) := by
  induction moves generalizing q with
  | nil => simp [turns, after, asked]
  | cons m ms ih =>
    obtain ⟨acted, perm⟩ := q.act_waiting m
    obtain ⟨rest, rest_perm⟩ := ih (q.next m)
    have served : (q.act m).waiting = (q.turn m).granted ++ (q.next m).waiting := (q.act m).serve_waiting
    have after : q.after (m :: ms) = (q.next m).after ms := rfl
    rw [asked_cons, ← List.append_assoc, turns, List.flatMap_cons, List.flatMap_cons, after, List.append_assoc]
    constructor
    · have behind := rest.append_left (q.turn m).granted
      rw [← List.append_assoc _ (q.next m).waiting, ← served] at behind
      exact behind.trans (acted.append_right _)
    · -- who gives up later is put before those who get the lock now
      have shift : ((q.turn m).granted ++ ((q.next m).turns ms).flatMap Turn.cancelled).Perm _ := List.perm_append_comm
      have behind := rest_perm.append_left (q.turn m).granted
      rw [← List.append_assoc _ (q.next m).waiting, ← served, ← List.append_assoc] at behind
      have regrouped := behind.trans (shift.append_right _)
      rw [List.append_assoc] at regrouped
      refine (perm.append_right _).trans ?_
      rw [List.append_assoc, List.append_assoc]
      exact regrouped.append_left _

end Line

/-! ## The lines of all keys -/

/-- Every move of a party is about the one key that the party asks for. -/
def Move.about (keyOf : String → String) (key : String) (m : Move) : Bool :=
  keyOf m.name = key

/-- A move before locks are handed on. -/
def act (keyOf : String → String) (l : KeyedLock) : Move → KeyedLock
  | .ask name => l.request name (keyOf name)
  | .leave name => l.leave name

/-- Who gives up waiting by a move. -/
def gaveUp (l : KeyedLock) : Move → List String
  | .ask _ => []
  | .leave name =>
    if (l.holding.find? fun p => p.name = name).isSome then []
    else (l.waiting.find? fun p => p.name = name).toList.map Party.name

/-- What comes of a move. -/
def turn (keyOf : String → String) (l : KeyedLock) (m : Move) : Turn :=
  ⟨m, (l.act keyOf m).settle.1.map Party.name, l.gaveUp m⟩

/-- The locks when a move has settled. -/
def next (keyOf : String → String) (l : KeyedLock) (m : Move) : KeyedLock :=
  (l.act keyOf m).settle.2

/-- What comes of some moves. -/
def turns (keyOf : String → String) : KeyedLock → List Move → List Turn
  | _, [] => []
  | l, m :: ms => l.turn keyOf m :: turns keyOf (l.next keyOf m) ms

/-- The locks after some moves. -/
def after (keyOf : String → String) (l : KeyedLock) (moves : List Move) : KeyedLock :=
  moves.foldl (next keyOf) l

/-- Those of some parties who are about a key, by name. -/
def namesAt (key : String) (parties : List Party) : List String :=
  (parties.filter fun p => p.key = key).map Party.name

/-- The line of a key. -/
def lineOf (l : KeyedLock) (key : String) : Line :=
  ⟨namesAt key l.holding, namesAt key l.waiting⟩

/-! ### Names of parties -/

section Names

variable {keyOf : String → String} {parties : List Party}

theorem namesAt_append (key : String) (ps qs : List Party) :
    namesAt key (ps ++ qs) = namesAt key ps ++ namesAt key qs := by
  simp [namesAt]

theorem mem_namesAt {key name : String} :
    name ∈ namesAt key parties ↔ ∃ p ∈ parties, p.key = key ∧ p.name = name := by
  simp [namesAt, and_assoc]

theorem namesAt_erase_of_ne {key : String} {p : Party} (other : p.key ≠ key) :
    namesAt key (parties.erase p) = namesAt key parties := by
  have absent : p ∉ parties.filter fun q => q.key = key := by simp [other]
  rw [namesAt, ← List.erase_filter, List.erase_of_not_mem absent, namesAt]

/-- The first party of a name is the first of that name in its line. -/
theorem namesAt_erase {name : String} {p : Party} (home : ∀ q ∈ parties, q.key = keyOf q.name)
    (found : parties.find? (fun q => q.name = name) = some p) :
    namesAt (keyOf name) (parties.erase p) = (namesAt (keyOf name) parties).erase name := by
  induction parties with
  | nil => cases found
  | cons q rest ih =>
    have own : q.key = keyOf q.name := home q List.mem_cons_self
    by_cases first : q.name = name
    · have eq : q = p := by simpa [List.find?_cons, first] using found
      simp [← eq, namesAt, own, first]
    · have found : rest.find? (fun q => q.name = name) = some p := by simpa [List.find?_cons, first] using found
      have named : p.name = name := by simpa using List.find?_some found
      have ne : q ≠ p := fun eq => first (eq ▸ named)
      have rest := ih (fun q mem => home q (List.mem_cons_of_mem _ mem)) found
      rw [List.erase_cons_tail (by simpa using ne)]
      by_cases same : q.key = keyOf name
      · simpa [namesAt, same, first] using rest
      · simpa [namesAt, same] using rest

theorem isSome_find?_iff {name : String} (home : ∀ q ∈ parties, q.key = keyOf q.name) :
    (parties.find? fun q => q.name = name).isSome ↔ name ∈ namesAt (keyOf name) parties := by
  rw [List.find?_isSome, mem_namesAt]
  constructor
  · rintro ⟨p, mem, named⟩
    have named : p.name = name := by simpa using named
    exact ⟨p, mem, named ▸ home p mem, named⟩
  · rintro ⟨p, mem, -, named⟩
    exact ⟨p, mem, by simpa using named⟩

end Names

/-! ### Handing on -/

/-- Every key that is waited for is held. -/
def Served (l : KeyedLock) : Prop :=
  ∀ p ∈ l.waiting, ∃ q ∈ l.holding, q.key = p.key

/-- A waiting party can have its lock exactly if nobody holds its key. -/
theorem Counted.isFree_iff {l : KeyedLock} (h : l.Counted) {p : Party} (waits : p ∈ l.waiting) :
    l.isFree p.lock = true ↔ ∀ q ∈ l.holding, q.key ≠ p.key := by
  have separate {q : Party} (holds : q ∈ l.holding) : q.lock = p.lock ↔ q.key = p.key :=
    h.separate (List.mem_append_left _ holds) (List.mem_append_right _ waits)
  simp only [isFree, Bool.not_eq_true', List.any_eq_false, decide_eq_true_eq]
  exact forall₂_congr fun q holds => not_congr (separate holds)

/-- When every key that is waited for is held, nothing can be handed out. -/
theorem Served.settle {l : KeyedLock} (served : l.Served) (h : l.Counted) : l.settle = ([], l) := by
  have none : l.grant = none := by
    rw [grant, Option.map_eq_none_iff, List.find?_eq_none]
    intro p waits free
    obtain ⟨q, holds, eq⟩ := served p waits
    exact (h.isFree_iff waits).mp free q holds eq
  unfold KeyedLock.settle
  cases l.waiting.length with
  | zero => rfl
  | succ n => simp only [grantAll, none]

theorem Served.serve {l : KeyedLock} (served : l.Served) (key : String) :
    (l.lineOf key).serve = ([], l.lineOf key) := by
  refine Line.serve_eq_self fun waits => ?_
  obtain ⟨name, mem⟩ := List.exists_mem_of_ne_nil _ waits
  obtain ⟨p, mem, same, -⟩ := mem_namesAt.mp mem
  obtain ⟨q, holds, eq⟩ := served p mem
  exact List.ne_nil_of_mem (mem_namesAt.mpr ⟨q, holds, eq.trans same, rfl⟩)

/-- The first who waits for a key that nobody holds is handed its lock, and then every key that is waited for is held,
if all other keys were. -/
theorem Counted.settle_first {l : KeyedLock} (h : l.Counted) {p : Party}
    (idle : ∀ q ∈ l.holding, q.key ≠ p.key) (first : l.waiting.find? (fun q => q.key = p.key) = some p)
    (others : ∀ q ∈ l.waiting, q.key ≠ p.key → ∃ r ∈ l.holding, r.key = q.key) :
    l.settle = ([p], l.hand p) ∧ (l.hand p).Served := by
  have waits : p ∈ l.waiting := List.mem_of_find?_eq_some first
  have served : (l.hand p).Served := by
    intro q mem
    by_cases same : q.key = p.key
    · exact ⟨p, by simp [hand], same.symm⟩
    · obtain ⟨r, holds, eq⟩ := others q (List.mem_of_mem_erase mem) same
      exact ⟨r, List.mem_append_left _ holds, eq⟩
  have granted : l.grant = some (p, l.hand p) := by
    have free : ∀ q ∈ l.waiting, l.isFree q.lock = decide (q.key = p.key) := by
      intro q mem
      rw [Bool.eq_iff_iff, h.isFree_iff mem, decide_eq_true_iff]
      constructor
      · intro none
        by_contra other
        obtain ⟨r, holds, eq⟩ := others q mem other
        exact none r holds eq
      · intro same r holds eq
        exact idle r holds (eq.trans same)
    have found : l.waiting.find? (fun q => l.isFree q.lock) = some p := by
      rw [← first]
      exact List.find?_congr free
    rw [grant, found]
    rfl
  have rest : (l.hand p).settle = ([], l.hand p) :=
    served.settle (h.moved (parties_hand waits) rfl rfl)
  refine ⟨?_, served⟩
  have length : l.waiting.length = (l.hand p).waiting.length + 1 := by
    simpa [hand] using (List.length_erase_add_one waits).symm
  rw [KeyedLock.settle, length]
  simp only [grantAll, granted]
  rw [KeyedLock.settle] at rest
  rw [rest]

theorem lineOf_hand_of_ne (l : KeyedLock) {p : Party} {key : String} (other : p.key ≠ key) :
    (l.hand p).lineOf key = l.lineOf key := by
  simp only [lineOf, hand, namesAt_append, namesAt_erase_of_ne other]
  simp [namesAt, other]

theorem serve_hand (l : KeyedLock) {p : Party} (idle : ∀ q ∈ l.holding, q.key ≠ p.key)
    (first : l.waiting.find? (fun q => q.key = p.key) = some p) :
    (l.lineOf p.key).serve = ([p.name], (l.hand p).lineOf p.key) := by
  have nobody : namesAt p.key l.holding = [] := by simpa [namesAt] using idle
  rw [← List.head?_filter, List.head?_eq_some_iff] at first
  obtain ⟨rest, line⟩ := first
  have waiting : namesAt p.key l.waiting = p.name :: rest.map Party.name := by simp [namesAt, line]
  have behind : namesAt p.key (l.waiting.erase p) = rest.map Party.name := by
    rw [namesAt, ← List.erase_filter, line, List.erase_cons_head]
  simp only [lineOf, hand, namesAt_append, nobody, waiting, behind]
  simp [Line.serve, namesAt]

/-- What comes of handing on when one key at most is waited for that nobody holds: the line of that key is served, and
the other lines stay as they are. -/
structure Served.By (l : KeyedLock) (key : String) (granted : List Party) (l' : KeyedLock) : Prop where
  served : l'.Served
  parties : ∀ p ∈ l'.parties, p ∈ l.parties
  own : (l.lineOf key).serve = (granted.map Party.name, l'.lineOf key)
  other : ∀ k, k ≠ key → l'.lineOf k = l.lineOf k
  about : ∀ p ∈ granted, p ∈ l.parties ∧ p.key = key

theorem Counted.settle {l : KeyedLock} (h : l.Counted) {key : String}
    (others : ∀ q ∈ l.waiting, q.key ≠ key → ∃ r ∈ l.holding, r.key = q.key) :
    Served.By l key l.settle.1 l.settle.2 := by
  by_cases served : l.Served
  · rw [served.settle h]
    exact ⟨served, fun _ mem => mem, served.serve key, fun _ _ => rfl, nofun⟩
  · obtain ⟨q, mem, none⟩ : ∃ q ∈ l.waiting, ∀ r ∈ l.holding, r.key ≠ q.key := by
      simpa [Served] using served
    have same : q.key = key := by
      by_contra other
      obtain ⟨r, holds, eq⟩ := others q mem other
      exact none r holds eq
    subst same
    obtain ⟨p, first⟩ : ∃ p, l.waiting.find? (fun r => r.key = q.key) = some p :=
      Option.isSome_iff_exists.mp (List.find?_isSome.mpr ⟨q, mem, by simp⟩)
    have waits : p ∈ l.waiting := List.mem_of_find?_eq_some first
    have same : p.key = q.key := by simpa using List.find?_some first
    rw [← same] at none first others ⊢
    obtain ⟨settled, served⟩ := h.settle_first none first others
    rw [settled]
    refine ⟨served, fun r mem => (parties_hand waits).subset mem, ?_, fun k other => ?_, ?_⟩
    · exact serve_hand l none first
    · exact lineOf_hand_of_ne l fun eq => other eq.symm
    · intro r mem
      cases List.mem_singleton.mp mem
      exact ⟨List.mem_append_right _ waits, rfl⟩

/-! ### Moves -/

/-- What holds when a move has settled: the locks are sound, every party asks for its own key, and every key that is
waited for is held. -/
structure Ready (keyOf : String → String) (l : KeyedLock) : Prop where
  reached : Reached ⟨l, []⟩
  home : ∀ p ∈ l.parties, p.key = keyOf p.name
  served : l.Served

theorem ready_empty (keyOf : String → String) : Ready keyOf {} where
  reached := .refl
  home := nofun
  served := nofun

section Moves

variable {keyOf : String → String} {l : KeyedLock}

theorem Ready.counted (h : Ready keyOf l) : l.Counted :=
  h.reached.sound.counted

theorem Ready.holds (h : Ready keyOf l) : ∀ p ∈ l.holding, p.key = keyOf p.name :=
  fun p mem => h.home p (List.mem_append_left _ mem)

theorem Ready.waits (h : Ready keyOf l) : ∀ p ∈ l.waiting, p.key = keyOf p.name :=
  fun p mem => h.home p (List.mem_append_right _ mem)

/-- What a move does before locks are handed on: the line of its key makes the move, the others stay, and at most its
own key is waited for and not held. -/
structure Acted (keyOf : String → String) (l : KeyedLock) (m : Move) : Prop where
  reached : Reached ⟨l.act keyOf m, []⟩
  home : ∀ p ∈ (l.act keyOf m).parties, p.key = keyOf p.name
  others : ∀ p ∈ (l.act keyOf m).waiting, p.key ≠ keyOf m.name →
    ∃ q ∈ (l.act keyOf m).holding, q.key = p.key
  own : (l.act keyOf m).lineOf (keyOf m.name) = (l.lineOf (keyOf m.name)).act m
  cancelled : l.gaveUp m = (l.lineOf (keyOf m.name)).gaveUp m
  other : ∀ key, key ≠ keyOf m.name → (l.act keyOf m).lineOf key = l.lineOf key

theorem Ready.ask (h : Ready keyOf l) (name : String) : Acted keyOf l (.ask name) where
  reached := h.reached.tail (.request ⟨l, []⟩ name (keyOf name))
  home p mem := by
    rw [act, parties_request] at mem
    rcases List.mem_append.mp mem with mem | mem
    · exact h.home p mem
    · cases List.mem_singleton.mp mem
      rfl
  others p mem other := by
    simp only [act, request_eq, List.mem_append, List.mem_singleton] at mem ⊢
    rcases mem with mem | rfl
    · exact h.served p mem
    · exact absurd rfl other
  own := by
    simp only [act, request_eq, lineOf, namesAt_append, Line.act, Move.name]
    simp [namesAt]
  cancelled := rfl
  other key other := by
    have other : ¬keyOf name = key := fun eq => other eq.symm
    simp only [act, request_eq, lineOf, namesAt_append]
    simp [namesAt, other]

theorem Ready.giveBack (h : Ready keyOf l) {name : String} {p : Party}
    (found : l.holding.find? (fun q => q.name = name) = some p) : Acted keyOf l (.leave name) := by
  have holds : p ∈ l.holding := List.mem_of_find?_eq_some found
  have named : p.name = name := by simpa using List.find?_some found
  have key : p.key = keyOf name := named ▸ h.holds p holds
  have act : l.act keyOf (.leave name) = l.giveBack p := by simp [KeyedLock.act, KeyedLock.leave, found]
  have inLine : name ∈ namesAt (keyOf name) l.holding := mem_namesAt.mpr ⟨p, holds, key, named⟩
  refine ⟨h.reached.leave name, ?_, ?_, ?_, ?_, ?_⟩ <;> simp only [act, Move.name]
  · exact fun q mem => h.home q ((parties_giveBack holds).mem_iff.mpr (List.mem_cons_of_mem _ mem))
  · intro q waits other
    obtain ⟨r, holds, eq⟩ := h.served q waits
    have ne : r ≠ p := fun same => other (eq.symm.trans (same ▸ key))
    exact ⟨r, (List.mem_erase_of_ne ne).mpr holds, eq⟩
  · simp only [lineOf, KeyedLock.giveBack, Line.act, inLine, if_true, namesAt_erase h.holds found]
  · simp [gaveUp, Line.gaveUp, lineOf, found, inLine]
  · intro k other
    simp only [lineOf, KeyedLock.giveBack, namesAt_erase_of_ne fun eq => other (eq.symm.trans key)]

theorem Ready.giveUp (h : Ready keyOf l) {name : String} {p : Party}
    (none : l.holding.find? (fun q => q.name = name) = none)
    (found : l.waiting.find? (fun q => q.name = name) = some p) : Acted keyOf l (.leave name) := by
  have waits : p ∈ l.waiting := List.mem_of_find?_eq_some found
  have named : p.name = name := by simpa using List.find?_some found
  have key : p.key = keyOf name := named ▸ h.waits p waits
  have act : l.act keyOf (.leave name) = l.giveUp p := by simp [KeyedLock.act, KeyedLock.leave, none, found]
  have notHeld : name ∉ namesAt (keyOf name) l.holding := by simp [← isSome_find?_iff h.holds, none]
  have inLine : name ∈ namesAt (keyOf name) l.waiting := mem_namesAt.mpr ⟨p, waits, key, named⟩
  refine ⟨h.reached.leave name, ?_, ?_, ?_, ?_, ?_⟩ <;> simp only [act, Move.name]
  · exact fun q mem => h.home q ((parties_giveUp waits).mem_iff.mpr (List.mem_cons_of_mem _ mem))
  · exact fun q mem _ => h.served q (List.mem_of_mem_erase mem)
  · simp only [lineOf, KeyedLock.giveUp, Line.act, notHeld, if_false, namesAt_erase h.waits found]
  · simp [gaveUp, Line.gaveUp, lineOf, none, found, notHeld, inLine, named]
  · intro k other
    simp only [lineOf, KeyedLock.giveUp, namesAt_erase_of_ne fun eq => other (eq.symm.trans key)]

theorem Ready.absent (h : Ready keyOf l) {name : String} (noHolder : l.holding.find? (fun q => q.name = name) = none)
    (noWaiter : l.waiting.find? (fun q => q.name = name) = none) : Acted keyOf l (.leave name) := by
  have act : l.act keyOf (.leave name) = l := by simp [KeyedLock.act, KeyedLock.leave, noHolder, noWaiter]
  have notHeld : name ∉ namesAt (keyOf name) l.holding := by simp [← isSome_find?_iff h.holds, noHolder]
  have notInLine : name ∉ namesAt (keyOf name) l.waiting := by simp [← isSome_find?_iff h.waits, noWaiter]
  refine ⟨h.reached.leave name, ?_, ?_, ?_, ?_, ?_⟩ <;> simp only [act, Move.name]
  · exact h.home
  · exact fun q mem _ => h.served q mem
  · simp only [lineOf, Line.act, notHeld, if_false, List.erase_of_not_mem notInLine]
  · simp [gaveUp, Line.gaveUp, lineOf, noHolder, noWaiter, notHeld, notInLine]
  · simp only [implies_true]

theorem Ready.leave (h : Ready keyOf l) (name : String) : Acted keyOf l (.leave name) := by
  cases held : l.holding.find? fun p => p.name = name with
  | some p => exact h.giveBack held
  | none =>
    cases waited : l.waiting.find? fun p => p.name = name with
    | some p => exact h.giveUp held waited
    | none => exact h.absent held waited

theorem Ready.act (h : Ready keyOf l) (m : Move) : Acted keyOf l m := by
  cases m with
  | ask name => exact h.ask name
  | leave name => exact h.leave name

theorem Ready.next (h : Ready keyOf l) (m : Move) : Ready keyOf (l.next keyOf m) := by
  have acted := h.act m
  have handed := acted.reached.sound.counted.settle acted.others
  exact ⟨acted.reached.settle, fun p mem => acted.home p (handed.parties p mem), handed.served⟩

/-- A move is a turn in the line of its key. -/
theorem Ready.own (h : Ready keyOf l) (m : Move) :
    l.turn keyOf m = (l.lineOf (keyOf m.name)).turn m ∧
      (l.next keyOf m).lineOf (keyOf m.name) = (l.lineOf (keyOf m.name)).next m := by
  have acted := h.act m
  have own := (acted.reached.sound.counted.settle acted.others).own
  rw [acted.own] at own
  simp only [turn, KeyedLock.next, Line.turn, Line.next, own, acted.cancelled, and_self]

/-- No other line moves. -/
theorem Ready.other (h : Ready keyOf l) (m : Move) {key : String} (other : key ≠ keyOf m.name) :
    (l.next keyOf m).lineOf key = l.lineOf key := by
  have acted := h.act m
  exact ((acted.reached.sound.counted.settle acted.others).other key other).trans (acted.other key other)

/-- Only parties of its key get a lock or give up by a move. -/
theorem Ready.about (h : Ready keyOf l) (m : Move) :
    ∀ name ∈ (l.turn keyOf m).granted ++ (l.turn keyOf m).cancelled, keyOf name = keyOf m.name := by
  have acted := h.act m
  intro name mem
  rcases List.mem_append.mp mem with granted | cancelled
  · obtain ⟨p, got, rfl⟩ := List.mem_map.mp granted
    obtain ⟨known, key⟩ := (acted.reached.sound.counted.settle acted.others).about p got
    exact (acted.home p known).symm.trans key
  · cases m with
    | ask _ => cases cancelled
    | leave gone =>
      suffices name = gone by rw [this, Move.name]
      simp only [turn, gaveUp] at cancelled
      split at cancelled
      · cases cancelled
      · obtain ⟨p, found, rfl⟩ := List.mem_map.mp cancelled
        simpa using List.find?_some (Option.mem_toList.mp found)

end Moves

/-! ## The turns of a key -/

section Turns

variable {keyOf : String → String} {l : KeyedLock}

/-- **The turns of a key are those of its line**: they are what comes of the moves about this key alone. -/
theorem Ready.turns_filter (h : Ready keyOf l) (key : String) (moves : List Move) :
    ((turns keyOf l moves).filter fun t => t.move.about keyOf key) =
        (l.lineOf key).turns (moves.filter (Move.about keyOf key)) ∧
      (l.after keyOf moves).lineOf key = (l.lineOf key).after (moves.filter (Move.about keyOf key)) := by
  induction moves generalizing l with
  | nil => exact ⟨rfl, rfl⟩
  | cons m ms ih =>
    obtain ⟨turns, after⟩ := ih (h.next m)
    have step : l.after keyOf (m :: ms) = (l.next keyOf m).after keyOf ms := rfl
    have move : (l.turn keyOf m).move = m := rfl
    by_cases own : keyOf m.name = key
    · subst own
      obtain ⟨turn, next⟩ := h.own m
      have about : m.about keyOf (keyOf m.name) = true := by simp [Move.about]
      rw [step, after, next, KeyedLock.turns, List.filter_cons_of_pos (by rw [move, about]), turns, next, turn,
        List.filter_cons_of_pos about]
      exact ⟨rfl, rfl⟩
    · have about : ¬m.about keyOf key = true := by simpa [Move.about] using own
      have other := h.other m fun eq => own eq.symm
      rw [step, after, other, KeyedLock.turns, List.filter_cons_of_neg (by rwa [move]), turns, other,
        List.filter_cons_of_neg about]
      exact ⟨rfl, rfl⟩

theorem Ready.after (h : Ready keyOf l) (moves : List Move) : Ready keyOf (l.after keyOf moves) := by
  induction moves generalizing l with
  | nil => exact h
  | cons m ms ih => exact ih (h.next m)

theorem Ready.turns_about (h : Ready keyOf l) (moves : List Move) :
    ∀ t ∈ turns keyOf l moves, ∀ name ∈ t.granted ++ t.cancelled, keyOf name = keyOf t.move.name := by
  induction moves generalizing l with
  | nil => nofun
  | cons m ms ih =>
    intro t mem
    rcases List.mem_cons.mp mem with rfl | mem
    · exact h.about m
    · exact ih (h.next m) t mem

theorem map_move_turns (moves : List Move) : (turns keyOf l moves).map Turn.move = moves := by
  induction moves generalizing l with
  | nil => rfl
  | cons m ms ih => exact congrArg (m :: ·) ih

/-- When all moves are about one key, so are all turns. -/
theorem filter_turns_filter (key : String) (moves : List Move) :
    ((turns keyOf l (moves.filter (Move.about keyOf key))).filter fun t => t.move.about keyOf key) =
      turns keyOf l (moves.filter (Move.about keyOf key)) := by
  refine List.filter_eq_self.mpr fun t mem => ?_
  have made : t.move ∈ moves.filter (Move.about keyOf key) := by
    rw [← map_move_turns (moves.filter _)]
    exact List.mem_map_of_mem mem
  exact (List.mem_filter.mp made).2

end Turns

/-- **Keys are independent of each other, and each is first come, first served.** Parties ask for locks and leave in any
order. What comes of the moves about a key is what comes of them without all others; at such a move only parties of that
key get a lock or give up; they get it in the order in which they asked, but for those who gave up; and at the end every
key that is waited for is held. -/
theorem keys_independent (keyOf : String → String) (moves : List Move) (key : String) :
    let own := moves.filter (Move.about keyOf key)
    let ownTurns := (turns keyOf {} moves).filter fun t => t.move.about keyOf key
    let last := KeyedLock.after keyOf {} moves
    ownTurns = turns keyOf {} own ∧
      last.lineOf key = (KeyedLock.after keyOf {} own).lineOf key ∧
      (∀ t ∈ turns keyOf {} moves, ∀ name ∈ t.granted ++ t.cancelled, keyOf name = keyOf t.move.name) ∧
      (ownTurns.flatMap Turn.granted ++ (last.lineOf key).waiting).Sublist (asked own) ∧
      (asked own).Perm
        (ownTurns.flatMap Turn.cancelled ++ (ownTurns.flatMap Turn.granted ++ (last.lineOf key).waiting)) ∧
      ∀ p ∈ last.waiting, ∃ q ∈ last.holding, q.key = p.key := by
  intro own ownTurns last
  have ready := ready_empty keyOf
  obtain ⟨turns_eq, after_eq⟩ := ready.turns_filter key moves
  obtain ⟨own_eq, own_after⟩ := ready.turns_filter key own
  rw [filter_turns_filter] at own_eq
  simp only [own, List.filter_filter, Bool.and_self] at own_eq own_after
  have inOrder := (lineOf {} key).turns_in_order own
  rw [← turns_eq, ← after_eq] at inOrder
  exact ⟨turns_eq.trans own_eq.symm, after_eq.trans own_after.symm, ready.turns_about moves, inOrder.1, inOrder.2,
    (ready.after moves).served⟩

/-- The second party of a key waits in front and is cancelled, so the third is next; the other key does not wait. -/
example :
    turns (fun name => if name = "d" then "other" else "disk") {}
        [.ask "a", .ask "b", .ask "d", .ask "c", .leave "b", .leave "a"] =
      [⟨.ask "a", ["a"], []⟩, ⟨.ask "b", [], []⟩, ⟨.ask "d", ["d"], []⟩, ⟨.ask "c", [], []⟩,
        ⟨.leave "b", [], ["b"]⟩, ⟨.leave "a", ["c"], []⟩] := by
  decide +kernel

end KeyedLock

end ClusterVolumes
