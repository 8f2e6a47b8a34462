import ClusterVolumes.TextMap

/-!
# Locks by key

Two calls that change one disk must not run at the same time, and calls on different disks must not
wait for each other. So there is a lock to each key, made when it is first asked for. A table keeps,
for each key, which lock it is and how many parties refer to it, and forgets the key when the last
of them is gone.

- `KeyedLock.request` starts to wait, `KeyedLock.leave` gives a lock back or stops waiting;
- `KeyedLock.grant` hands one lock that nobody has to the first who waits for it, and
  `KeyedLock.settle` hands out all that can be had.
-/

namespace ClusterVolumes

namespace KeyedLock

/-- Which lock a key has, and how many refer to it. -/
structure Entry where
  lock : Nat
  references : Nat
  deriving DecidableEq, Repr

/-- One who holds a lock or waits for it. -/
structure Party where
  name : String
  key : String
  lock : Nat
  deriving DecidableEq, Repr

end KeyedLock

/-- The table of locks with those who hold them and those who wait, both in the order in which they
asked. Locks are numbered as they are made, and `made` is the number of the next one. -/
structure KeyedLock where
  table : TextMap KeyedLock.Entry := ∅
  holding : List KeyedLock.Party := []
  waiting : List KeyedLock.Party := []
  made : Nat := 0

namespace KeyedLock

/-- The number of keys that are held or waited for. -/
def size (l : KeyedLock) : Nat :=
  l.table.entries.length

/-- Start to wait for the lock of a key. -/
def request (l : KeyedLock) (name key : String) : KeyedLock :=
  match l.table.get? key with
  | some e =>
    { l with
      table := l.table.insert key { e with references := e.references + 1 }
      waiting := l.waiting ++ [⟨name, key, e.lock⟩] }
  | none =>
    { l with
      table := l.table.insert key ⟨l.made, 1⟩
      waiting := l.waiting ++ [⟨name, key, l.made⟩]
      made := l.made + 1 }

/-- The table when one party fewer refers to a key. -/
def dropReference (table : TextMap Entry) (key : String) : TextMap Entry :=
  match table.get? key with
  | none => table
  | some e =>
    if e.references ≤ 1 then table.filterKeys (· ≠ key)
    else table.insert key { e with references := e.references - 1 }

/-- A holder gives back what it holds. -/
def giveBack (l : KeyedLock) (p : Party) : KeyedLock :=
  { l with table := dropReference l.table p.key, holding := l.holding.erase p }

/-- A party that waits does so no longer. -/
def giveUp (l : KeyedLock) (p : Party) : KeyedLock :=
  { l with table := dropReference l.table p.key, waiting := l.waiting.erase p }

/-- Give back what a party holds, or else let it wait no longer. -/
def leave (l : KeyedLock) (name : String) : KeyedLock :=
  match l.holding.find? fun p => p.name = name with
  | some p => l.giveBack p
  | none =>
    match l.waiting.find? fun p => p.name = name with
    | some p => l.giveUp p
    | none => l

/-- Does nobody hold a lock? -/
def isFree (l : KeyedLock) (lock : Nat) : Bool :=
  !(l.holding.any fun p => p.lock = lock)

/-- A party that waited holds its lock. -/
def hand (l : KeyedLock) (p : Party) : KeyedLock :=
  { l with holding := l.holding ++ [p], waiting := l.waiting.erase p }

/-- Hand a free lock to the first party that waits for one. -/
def grant (l : KeyedLock) : Option (Party × KeyedLock) :=
  (l.waiting.find? fun p => l.isFree p.lock).map fun p => (p, l.hand p)

/-- Hand out free locks up to `n` times, and say who got one. -/
def grantAll : (n : Nat) → KeyedLock → List Party × KeyedLock
  | 0, l => ([], l)
  | n + 1, l =>
    match l.grant with
    | none => ([], l)
    | some (p, l) => (p :: (grantAll n l).1, (grantAll n l).2)

/-- Hand out all locks that can be had, and say who got one, in order of asking. -/
def settle (l : KeyedLock) : List Party × KeyedLock :=
  grantAll l.waiting.length l

end KeyedLock

end ClusterVolumes
