import ClusterVolumes.KeyedLock
import Mathlib.Data.List.Dedup
import Mathlib.Data.List.Perm.Basic
import Mathlib.Data.List.Count
import Mathlib.Logic.Relation

/-!
# References of keyed locks

Parties ask for locks, get them, give them back and give up waiting, in any order and any number of them at once.
`Traffic` is a state of the table with the guards that are just being dropped, `Step` is what one party can do to it,
and `Reached` are the states after any number of steps.

- What the table says of the parties, `Counted`, is kept when a party comes (`Counted.request`), leaves
  (`Counted.removed`) or only gets its lock (`Counted.moved`); so every step keeps it (`Sound.step`);
- `reached_accounted`: in every state that is reached, the table has one entry to each key that is held or waited for,
  its count is the number of those who do, and one party at most holds the lock of a key;
- the operations that hand out locks in the order of asking are such steps (`Reached.grant`, `Reached.settle`,
  `Reached.leave`).
-/

namespace ClusterVolumes

namespace KeyedLock

/-- All who hold a lock or wait for one. -/
def parties (l : KeyedLock) : List Party :=
  l.holding ++ l.waiting

/-- The number of those who hold the lock of a key or wait for it. -/
def number (l : KeyedLock) (key : String) : Nat :=
  l.parties.countP fun p => p.key = key

/-! ## The table -/

/-- What is left of an entry when one party fewer refers to it. -/
def Entry.dropped? (e : Entry) : Option Entry :=
  if e.references ≤ 1 then none else some { e with references := e.references - 1 }

theorem get?_dropReference (table : TextMap Entry) (key k : String) :
    (dropReference table key).get? k = if k = key then (table.get? key).bind Entry.dropped? else table.get? k := by
  unfold dropReference
  cases entry : table.get? key with
  | none =>
    by_cases h : k = key
    · simp [h, entry]
    · simp [h]
  | some e =>
    by_cases last : e.references ≤ 1
    · by_cases h : k = key <;> simp [TextMap.get?_filterKeys, Entry.dropped?, last, h]
    · by_cases h : k = key <;> simp [TextMap.get?_insert, Entry.dropped?, last, h]

/-- Entries keep their locks when a reference goes. -/
theorem lock_dropReference {table : TextMap Entry} {key k : String} {e' : Entry}
    (h : (dropReference table key).get? k = some e') : ∃ e, table.get? k = some e ∧ e.lock = e'.lock := by
  rw [get?_dropReference] at h
  split at h
  · rename_i eq
    subst eq
    obtain ⟨e, found, left⟩ := Option.bind_eq_some_iff.mp h
    unfold Entry.dropped? at left
    split at left
    · cases left
    · cases left
      exact ⟨e, found, rfl⟩
  · exact ⟨e', h, rfl⟩

/-- The entry of a key when one party more refers to it. -/
def entered (l : KeyedLock) (key : String) : Entry :=
  match l.table.get? key with
  | some e => { e with references := e.references + 1 }
  | none => ⟨l.made, 1⟩

/-- A request as one record, whether its key is new or not. -/
theorem request_eq (l : KeyedLock) (name key : String) :
    l.request name key =
      { l with
        table := l.table.insert key (l.entered key)
        waiting := l.waiting ++ [⟨name, key, (l.entered key).lock⟩]
        made := if l.table.contains key then l.made else l.made + 1 } := by
  unfold request entered TextMap.contains
  cases l.table.get? key <;> rfl

theorem get?_request (l : KeyedLock) (name key k : String) :
    (l.request name key).table.get? k = if k = key then some (l.entered key) else l.table.get? k := by
  rw [request_eq]
  exact TextMap.get?_insert ..

theorem made_le_request (l : KeyedLock) (name key : String) : l.made ≤ (l.request name key).made := by
  rw [request_eq]
  simp only
  split <;> omega

/-! ## The parties -/

theorem parties_request (l : KeyedLock) (name key : String) :
    (l.request name key).parties = l.parties ++ [⟨name, key, (l.entered key).lock⟩] := by
  rw [request_eq]
  simp only [parties, List.append_assoc]

theorem parties_hand {l : KeyedLock} {p : Party} (waits : p ∈ l.waiting) : (l.hand p).parties.Perm l.parties := by
  have perm : l.waiting.Perm (p :: l.waiting.erase p) := List.perm_cons_erase waits
  simp only [parties, hand, List.append_assoc, List.singleton_append]
  exact (perm.append_left l.holding).symm

theorem parties_giveBack {l : KeyedLock} {p : Party} (holds : p ∈ l.holding) :
    l.parties.Perm (p :: (l.giveBack p).parties) :=
  (List.perm_cons_erase holds).append_right l.waiting

theorem parties_giveUp {l : KeyedLock} {p : Party} (waits : p ∈ l.waiting) :
    l.parties.Perm (p :: (l.giveUp p).parties) := by
  have perm : l.waiting.Perm (p :: l.waiting.erase p) := List.perm_cons_erase waits
  exact (perm.append_left l.holding).trans List.perm_middle

theorem number_request (l : KeyedLock) (name key k : String) :
    (l.request name key).number k = l.number k + if key = k then 1 else 0 := by
  simp [number, parties_request, List.countP_cons]

theorem number_of_perm_cons {l l' : KeyedLock} {p : Party} (perm : l.parties.Perm (p :: l'.parties)) (k : String) :
    l.number k = l'.number k + if p.key = k then 1 else 0 := by
  have eq := perm.countP_eq fun q => decide (q.key = k)
  simpa [number, List.countP_cons] using eq

theorem number_pos_iff {l : KeyedLock} {key : String} : 0 < l.number key ↔ ∃ p ∈ l.parties, p.key = key := by
  simp [number, List.countP_pos_iff]

/-! ## What the table says of the parties -/

/-- The table counts the parties of each key, all parties of a key refer to the lock of its entry, and different keys
have different locks. -/
structure Counted (l : KeyedLock) : Prop where
  count : ∀ {key e}, l.table.get? key = some e → e.references = l.number key ∧ 0 < e.references
  known : ∀ {p}, p ∈ l.parties → ∃ e, l.table.get? p.key = some e ∧ e.lock = p.lock
  old : ∀ {key e}, l.table.get? key = some e → e.lock < l.made
  apart : ∀ {k k' e e'}, l.table.get? k = some e → l.table.get? k' = some e' → e.lock = e'.lock → k = k'

theorem counted_empty : Counted {} where
  count h := nomatch h
  known h := nomatch h
  old h := nomatch h
  apart h := nomatch h

/-- Nobody refers to a key without an entry. -/
theorem Counted.number_eq_zero {l : KeyedLock} (h : l.Counted) {key : String} (none : l.table.get? key = none) :
    l.number key = 0 := by
  refine Nat.eq_zero_of_not_pos fun pos => ?_
  obtain ⟨p, hp, rfl⟩ := number_pos_iff.mp pos
  obtain ⟨e, entry, -⟩ := h.known hp
  rw [none] at entry
  cases entry

theorem Counted.request {l : KeyedLock} (h : l.Counted) (name key : String) : (l.request name key).Counted := by
  -- the entry of the key after the request, in both cases of the table
  have grown : (l.entered key).references = l.number key + 1 := by
    unfold entered
    split
    · rename_i e entry
      have := (h.count entry).1
      simp only
      omega
    · rename_i none
      have := h.number_eq_zero none
      simp only
      omega
  have kept {e : Entry} (entry : l.table.get? key = some e) : (l.entered key).lock = e.lock := by
    simp only [entered, entry]
  have below : (l.entered key).lock < (l.request name key).made := by
    cases entry : l.table.get? key with
    | some e => exact kept entry ▸ Nat.lt_of_lt_of_le (h.old entry) (l.made_le_request name key)
    | none => simp [KeyedLock.request, entered, entry]
  -- the lock of the key is one that no other key has
  have fresh {k : String} {e : Entry} (entry : l.table.get? k = some e) (eq : e.lock = (l.entered key).lock) :
      k = key := by
    cases found : l.table.get? key with
    | some e' => exact h.apart entry found (eq.trans (kept found))
    | none =>
      have lt := h.old entry
      simp only [entered, found] at eq
      omega
  refine ⟨fun {k e} entry => ?_, fun {p} hp => ?_, fun {k e} entry => ?_, fun {k k' e e'} entry entry' eq => ?_⟩
  · rw [get?_request] at entry
    rw [number_request]
    split at entry
    · rename_i same
      cases entry
      rw [if_pos same.symm, same]
      omega
    · rename_i other
      rw [if_neg fun eq => other eq.symm]
      exact h.count entry
  · rw [parties_request] at hp
    rw [get?_request]
    rcases List.mem_append.mp hp with hp | hp
    · obtain ⟨e, entry, lock⟩ := h.known hp
      split
      · rename_i same
        rw [same] at entry
        exact ⟨_, rfl, (kept entry).trans lock⟩
      · exact ⟨e, entry, lock⟩
    · cases List.mem_singleton.mp hp
      exact ⟨_, if_pos rfl, rfl⟩
  · rw [get?_request] at entry
    split at entry
    · cases entry
      exact below
    · exact Nat.lt_of_lt_of_le (h.old entry) (l.made_le_request name key)
  · rw [get?_request] at entry entry'
    split at entry <;> split at entry'
    · rename_i hk hk'
      exact hk.trans hk'.symm
    · rename_i hk hk'
      cases entry
      exact hk.trans (fresh entry' eq.symm).symm
    · rename_i hk hk'
      cases entry'
      exact (fresh entry eq).trans hk'.symm
    · exact h.apart entry entry' eq

/-- A party leaves, and the table drops its reference. -/
theorem Counted.removed {l l' : KeyedLock} {p : Party} (h : l.Counted) (perm : l.parties.Perm (p :: l'.parties))
    (table : l'.table = dropReference l.table p.key) (made : l'.made = l.made) : l'.Counted := by
  have number := number_of_perm_cons perm
  refine ⟨fun {k e} entry => ?_, fun {q} hq => ?_, fun {k e} entry => ?_, fun {k k' e e'} entry entry' eq => ?_⟩
  · rw [table, get?_dropReference] at entry
    have n := number k
    split at entry
    · rename_i same
      obtain ⟨e', found, left⟩ := Option.bind_eq_some_iff.mp entry
      have count := (h.count found).1
      unfold Entry.dropped? at left
      split at left
      · cases left
      · cases left
        rw [if_pos same.symm, same] at n
        rw [same]
        simp only
        omega
    · rename_i other
      have count := h.count entry
      rw [if_neg fun eq => other eq.symm] at n
      omega
  · have before : q ∈ l.parties := perm.mem_iff.mpr (List.mem_cons_of_mem _ hq)
    obtain ⟨e, entry, lock⟩ := h.known before
    rw [table, get?_dropReference]
    split
    · rename_i same
      -- besides the one that leaves, this one refers to the key too
      have two : 1 < e.references := by
        have n := number p.key
        have count := (h.count entry).1
        have pos : 0 < l'.number p.key := number_pos_iff.mpr ⟨q, hq, same⟩
        rw [if_pos rfl] at n
        rw [same] at count
        omega
      refine ⟨{ e with references := e.references - 1 }, ?_, lock⟩
      rw [← same, entry]
      simp [Entry.dropped?, Nat.not_le.mpr two]
    · exact ⟨e, entry, lock⟩
  · rw [table] at entry
    obtain ⟨e', found, lock⟩ := lock_dropReference entry
    have lt := h.old found
    omega
  · rw [table] at entry entry'
    obtain ⟨f, found, lock⟩ := lock_dropReference entry
    obtain ⟨f', found', lock'⟩ := lock_dropReference entry'
    exact h.apart found found' (lock.trans (eq.trans lock'.symm))

/-- The same parties are told apart otherwise. -/
theorem Counted.moved {l l' : KeyedLock} (h : l.Counted) (perm : l'.parties.Perm l.parties) (table : l'.table = l.table)
    (made : l'.made = l.made) : l'.Counted where
  count {k e} entry := by
    have number : l'.number k = l.number k := perm.countP_eq _
    rw [table] at entry
    rw [number]
    exact h.count entry
  known hp := by
    rw [table]
    exact h.known (perm.mem_iff.mp hp)
  old entry := by
    rw [table] at entry
    rw [made]
    exact h.old entry
  apart entry entry' := by
    rw [table] at entry entry'
    exact h.apart entry entry'

/-! ## Steps -/

/-- The locks with the guards that are being dropped: such a guard has given up its reference, and its lock is not open
yet. -/
structure Traffic where
  locks : KeyedLock := {}
  closing : List Party := []

/-- What can happen next. A lock is handed only when nobody has it, neither a holder nor a guard that is being
dropped; a party that holds its lock may drop it, whether by unlocking or not, and one that waits may be cancelled at
any time. -/
inductive Step : Traffic → Traffic → Prop
  | request (t : Traffic) (name key : String) : Step t { t with locks := t.locks.request name key }
  | grant {t : Traffic} {p : Party} (waits : p ∈ t.locks.waiting)
      (free : ∀ q ∈ t.locks.holding ++ t.closing, q.lock ≠ p.lock) : Step t { t with locks := t.locks.hand p }
  | giveBack {t : Traffic} {p : Party} (holds : p ∈ t.locks.holding) :
      Step t ⟨t.locks.giveBack p, p :: t.closing⟩
  | opened {t : Traffic} {p : Party} (closes : p ∈ t.closing) : Step t { t with closing := t.closing.erase p }
  | giveUp {t : Traffic} {p : Party} (waits : p ∈ t.locks.waiting) : Step t { t with locks := t.locks.giveUp p }

/-- The states after any number of steps of any parties, from the empty table on. -/
def Reached : Traffic → Prop :=
  Relation.ReflTransGen Step {}

/-- What every step keeps: the table counts the parties, and no lock is with two of those who have one. -/
structure Sound (t : Traffic) : Prop where
  counted : t.locks.Counted
  exclusive : ((t.locks.holding ++ t.closing).map Party.lock).Nodup

theorem Sound.step {t t' : Traffic} (h : Sound t) (step : Step t t') : Sound t' := by
  cases step with
  | request name key =>
    refine ⟨h.counted.request name key, ?_⟩
    have holding : (t.locks.request name key).holding = t.locks.holding := by rw [request_eq]
    simp only [holding]
    exact h.exclusive
  | @grant p waits free =>
    refine ⟨h.counted.moved (parties_hand waits) rfl rfl, ?_⟩
    have perm : (t.locks.holding ++ [p] ++ t.closing).Perm (p :: (t.locks.holding ++ t.closing)) := by
      rw [List.append_assoc]
      exact List.perm_middle
    have fresh : p.lock ∉ (t.locks.holding ++ t.closing).map Party.lock := by
      intro mem
      obtain ⟨q, hq, eq⟩ := List.mem_map.mp mem
      exact free q hq eq
    exact (perm.map _).nodup_iff.mpr (List.nodup_cons.mpr ⟨fresh, h.exclusive⟩)
  | @giveBack p holds =>
    refine ⟨h.counted.removed (parties_giveBack holds) rfl rfl, ?_⟩
    have perm : (t.locks.holding ++ t.closing).Perm (t.locks.holding.erase p ++ p :: t.closing) :=
      ((List.perm_cons_erase holds).append_right _).trans List.perm_middle.symm
    exact (perm.map _).nodup_iff.mp h.exclusive
  | @opened p closes =>
    have sub : (t.locks.holding ++ t.closing.erase p).Sublist (t.locks.holding ++ t.closing) :=
      List.Sublist.append_left List.erase_sublist _
    exact ⟨h.counted, h.exclusive.sublist (sub.map _)⟩
  | @giveUp p waits => exact ⟨h.counted.removed (parties_giveUp waits) rfl rfl, h.exclusive⟩

theorem Reached.sound {t : Traffic} (h : Reached t) : Sound t := by
  induction h with
  | refl => exact ⟨counted_empty, List.nodup_nil⟩
  | tail _ step ih => exact ih.step step

/-- In one step no party comes while another leaves. -/
theorem Step.subset {t t' : Traffic} (step : Step t t') :
    t.locks.parties ⊆ t'.locks.parties ∨ t'.locks.parties ⊆ t.locks.parties := by
  cases step with
  | request name key =>
    rw [parties_request]
    exact Or.inl fun q hq => List.mem_append_left _ hq
  | grant waits free => exact Or.inr (parties_hand waits).subset
  | giveBack holds => exact Or.inr fun q hq => (parties_giveBack holds).mem_iff.mpr (List.mem_cons_of_mem _ hq)
  | opened closes => exact Or.inl fun q hq => hq
  | giveUp waits => exact Or.inr fun q hq => (parties_giveUp waits).mem_iff.mpr (List.mem_cons_of_mem _ hq)

/-- While somebody refers to a key, its entry stays with its lock. -/
theorem Sound.keeps {t t' : Traffic} (h : Sound t) (step : Step t t') {key : String} {e : Entry}
    (entry : t.locks.table.get? key = some e) (referred : ∃ p ∈ t'.locks.parties, p.key = key) :
    ∃ e', t'.locks.table.get? key = some e' ∧ e'.lock = e.lock := by
  -- a party of the key that is there before the step and after it
  obtain ⟨p, before, after, rfl⟩ : ∃ p, p ∈ t.locks.parties ∧ p ∈ t'.locks.parties ∧ p.key = key := by
    rcases step.subset with grows | shrinks
    · obtain ⟨count, pos⟩ := h.counted.count entry
      obtain ⟨p, hp, eq⟩ := number_pos_iff.mp (count ▸ pos)
      exact ⟨p, hp, grows hp, eq⟩
    · obtain ⟨p, hp, eq⟩ := referred
      exact ⟨p, shrinks hp, hp, eq⟩
  obtain ⟨e₁, found, lock⟩ := h.counted.known before
  obtain ⟨e', found', lock'⟩ := (h.step step).counted.known after
  rw [entry] at found
  cases found
  exact ⟨e', found', lock'.trans lock.symm⟩

/-! ## What the table shows -/

/-- What the table shows of those who hold locks and those who wait: it has an entry to each key that one of them
refers to, with their number and their lock, one of them at most holds the lock of a key, the size is the number of
their keys, and without them it is empty. -/
structure Accounted (l : KeyedLock) : Prop where
  listed : ∀ key, l.table.contains key = true ↔ ∃ p ∈ l.parties, p.key = key
  counted : ∀ key e, l.table.get? key = some e → e.references = l.number key
  exclusive : ∀ key, (l.holding.countP fun p => p.key = key) ≤ 1
  together : ∀ p ∈ l.parties, ∃ e, l.table.get? p.key = some e ∧ e.lock = p.lock ∧ 0 < e.references
  separate : ∀ p ∈ l.parties, ∀ q ∈ l.parties, p.lock = q.lock ↔ p.key = q.key
  size_eq : l.size = (l.parties.map Party.key).dedup.length
  emptied : l.parties = [] → l.table.entries = []

theorem Counted.listed {l : KeyedLock} (h : l.Counted) (key : String) :
    l.table.contains key = true ↔ ∃ p ∈ l.parties, p.key = key := by
  unfold TextMap.contains
  constructor
  · intro some
    obtain ⟨e, entry⟩ := Option.isSome_iff_exists.mp some
    obtain ⟨count, pos⟩ := h.count entry
    exact number_pos_iff.mp (count ▸ pos)
  · rintro ⟨p, hp, rfl⟩
    obtain ⟨e, entry, -⟩ := h.known hp
    exact Option.isSome_iff_exists.mpr ⟨e, entry⟩

/-- Parties have one lock exactly if they have one key. -/
theorem Counted.separate {l : KeyedLock} (h : l.Counted) {p q : Party} (hp : p ∈ l.parties) (hq : q ∈ l.parties) :
    p.lock = q.lock ↔ p.key = q.key := by
  obtain ⟨e, entry, lock⟩ := h.known hp
  obtain ⟨e', entry', lock'⟩ := h.known hq
  constructor
  · intro eq
    exact h.apart entry entry' (lock.trans (eq.trans lock'.symm))
  · intro eq
    rw [eq, entry'] at entry
    cases entry
    exact lock.symm.trans lock'

theorem Counted.size_eq {l : KeyedLock} (h : l.Counted) : l.size = (l.parties.map Party.key).dedup.length := by
  have same : ∀ key, key ∈ l.table.keys ↔ key ∈ (l.parties.map Party.key).dedup := by
    intro key
    rw [TextMap.mem_keys_iff, h.listed, List.mem_dedup, List.mem_map]
  have perm : l.table.keys.Perm (l.parties.map Party.key).dedup :=
    (List.perm_ext_iff_of_nodup l.table.nodup_keys (List.nodup_dedup _)).mpr same
  have length : l.size = l.table.keys.length := by simp [size, TextMap.keys]
  exact length.trans perm.length_eq

/-- No two holders of one key. -/
theorem Sound.holding_le_one {t : Traffic} (h : Sound t) (key : String) :
    (t.locks.holding.countP fun p => p.key = key) ≤ 1 := by
  refine Nat.le_of_not_lt fun two => ?_
  rw [List.countP_eq_length_filter] at two
  -- two of them would have the lock of the entry
  obtain ⟨p, q, rest, two⟩ : ∃ p q rest, t.locks.holding.filter (fun p => p.key = key) = p :: q :: rest := by
    match found : t.locks.holding.filter fun p => p.key = key with
    | [] => simp [found] at two
    | [p] => simp [found] at two
    | p :: q :: rest => exact ⟨p, q, rest, found⟩
  have sub : (p :: q :: rest).Sublist (t.locks.holding ++ t.closing) :=
    two ▸ List.filter_sublist.trans (List.sublist_append_left ..)
  have mem : ∀ r ∈ p :: q :: rest, r ∈ t.locks.parties ∧ r.key = key := by
    intro r hr
    rw [← two] at hr
    obtain ⟨held, same⟩ := List.mem_filter.mp hr
    exact ⟨List.mem_append_left _ held, by simpa using same⟩
  obtain ⟨hp, kp⟩ := mem p (by simp)
  obtain ⟨hq, kq⟩ := mem q (by simp)
  have lock : p.lock = q.lock := (h.counted.separate hp hq).mpr (kp.trans kq.symm)
  have nodup := h.exclusive.sublist (sub.map Party.lock)
  simp [lock] at nodup

theorem Sound.accounted {t : Traffic} (h : Sound t) : t.locks.Accounted where
  listed := h.counted.listed
  counted _ _ entry := (h.counted.count entry).1
  exclusive := h.holding_le_one
  together _ hp := by
    obtain ⟨e, entry, lock⟩ := h.counted.known hp
    exact ⟨e, entry, lock, (h.counted.count entry).2⟩
  separate _ hp _ hq := h.counted.separate hp hq
  size_eq := h.counted.size_eq
  emptied none := by
    have size := h.counted.size_eq
    rw [none] at size
    exact List.eq_nil_of_length_eq_zero size

/-- **Every state that is reached accounts for its parties**: the table lists the keys that are held or waited for,
with the number of those who do and the lock that they share, at most one of them holds it, and a step that leaves
somebody with a key leaves its lock. -/
theorem reached_accounted {t : Traffic} (h : Reached t) :
    t.locks.Accounted ∧ ∀ t', Step t t' → ∀ key e, t.locks.table.get? key = some e →
      (∃ p ∈ t'.locks.parties, p.key = key) → ∃ e', t'.locks.table.get? key = some e' ∧ e'.lock = e.lock :=
  ⟨h.sound.accounted, fun _ step _ _ entry referred => h.sound.keeps step entry referred⟩

/-- One party holds a key, another waits for a second one whose guard is being dropped, and a third stopped waiting. -/
def handover : Traffic where
  locks := ((((((({} : KeyedLock).request "a" "k").hand ⟨"a", "k", 0⟩).request "b" "k").request "c" "k").giveUp
    ⟨"c", "k", 0⟩).giveBack ⟨"a", "k", 0⟩ |>.request "d" "m").hand ⟨"d", "m", 1⟩
  closing := [⟨"a", "k", 0⟩]

theorem handover_accounted :
    Reached handover ∧ handover.locks.Accounted ∧
      ∃ e, (handover.locks.request "e" "k").table.get? "k" = some e ∧ e.lock = 0 := by
  have reached : Reached handover :=
    Relation.ReflTransGen.refl
      |>.tail (.request _ "a" "k")
      |>.tail (.grant (p := ⟨"a", "k", 0⟩) (by decide) (by decide))
      |>.tail (.request _ "b" "k")
      |>.tail (.request _ "c" "k")
      |>.tail (.giveUp (p := ⟨"c", "k", 0⟩) (by decide))
      |>.tail (.giveBack (p := ⟨"a", "k", 0⟩) (by decide))
      |>.tail (.request _ "d" "m")
      |>.tail (.grant (p := ⟨"d", "m", 1⟩) (by decide) (by decide))
  obtain ⟨accounted, keeps⟩ := reached_accounted reached
  exact ⟨reached, accounted, keeps _ (.request handover "e" "k") "k" ⟨0, 1⟩ (by decide) (by decide)⟩

/-! ## Handing out in the order of asking -/

/-- Handing a lock to the first party that waits for one nobody has is a step. -/
theorem Reached.grant {l l' : KeyedLock} {p : Party} (h : Reached ⟨l, []⟩) (granted : l.grant = some (p, l')) :
    Reached ⟨l', []⟩ := by
  obtain ⟨q, found, eq⟩ := Option.map_eq_some_iff.mp granted
  cases eq
  have free : l.isFree p.lock = true := by simpa using List.find?_some found
  refine h.tail (.grant (List.mem_of_find?_eq_some found) fun q hq eq => ?_)
  rw [List.append_nil] at hq
  have held : (l.holding.any fun r => r.lock = p.lock) = true := List.any_eq_true.mpr ⟨q, hq, by simpa using eq⟩
  simp [isFree, held] at free

/-- So is handing out all that can be had. -/
theorem Reached.settle {l : KeyedLock} (h : Reached ⟨l, []⟩) : Reached ⟨l.settle.2, []⟩ := by
  have all (n : Nat) : ∀ {l : KeyedLock}, Reached ⟨l, []⟩ → Reached ⟨(grantAll n l).2, []⟩ := by
    induction n with
    | zero => exact fun h => h
    | succ n ih =>
      intro l h
      unfold grantAll
      split
      · exact h
      · rename_i granted
        exact ih (h.grant granted)
  exact all _ h

/-- A party that leaves drops its guard to the end, or waits no longer. -/
theorem Reached.leave {l : KeyedLock} (h : Reached ⟨l, []⟩) (name : String) : Reached ⟨l.leave name, []⟩ := by
  unfold KeyedLock.leave
  split
  · rename_i p found
    have dropped := h.tail (.giveBack (List.mem_of_find?_eq_some found))
    have opened := dropped.tail (.opened List.mem_cons_self)
    rw [List.erase_cons_head] at opened
    exact opened
  · split
    · rename_i p found
      exact h.tail (.giveUp (List.mem_of_find?_eq_some found))
    · exact h

end KeyedLock

end ClusterVolumes
