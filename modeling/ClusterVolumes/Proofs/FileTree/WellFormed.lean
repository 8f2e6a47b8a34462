import ClusterVolumes.Proofs.FileTree.PlainPattern
import ClusterVolumes.Proofs.Site.Answers
import Mathlib.Tactic.Common

/-!
# Trees that are well-formed

A folder has no name twice, and no name is longer than a system allows; in which order the entries are listed is left
open. `FileTree.WellFormed` says so of a whole tree. What is found in such a tree is well-formed (`WellFormed.at?`), and the
changes of a tree keep it so, whatever they come to: `Change.Keeps` has one rule for each way of building a change.
So the files of a site stay well-formed (`Site.wellFormed_answer`), and nothing else is ever seen of them
(`Site.wellFormed_replays`).
-/

namespace ClusterVolumes

namespace FileTree

/-- The names of every folder are distinct, and none of them is too long. -/
inductive WellFormed : FileTree → Prop
  | folder {entries : List (FileName × FileTree)} : (entries.map Prod.fst).Nodup →
      (∀ e ∈ entries, e.1.size ≤ maxName) → (∀ e ∈ entries, WellFormed e.2) → WellFormed (.folder entries)
  | file (text : String) : WellFormed (.file text)
  | unreadable : WellFormed .unreadable
  | socket : WellFormed .socket
  | blockDevice : WellFormed .blockDevice

/-- No name on the way to a place is too long. -/
def ShortNames (place : List FileName) : Prop :=
  ∀ name ∈ place, name.size ≤ maxName

/-! ## Entries -/

/-- Only the entry that is put in can be new. -/
theorem mem_setEntry {name : FileName} {t : FileTree} {l : List (FileName × FileTree)} {e : FileName × FileTree}
    (h : e ∈ setEntry name t l) : e = (name, t) ∨ e ∈ l := by
  induction l with
  | nil => exact Or.inl (List.mem_singleton.mp h)
  | cons first rest ih =>
    unfold setEntry at h
    split at h
    · exact (List.mem_cons.mp h).imp_right (List.mem_cons_of_mem first)
    · rcases List.mem_cons.mp h with rfl | h
      · exact Or.inr List.mem_cons_self
      · exact (ih h).imp_right (List.mem_cons_of_mem first)

/-- Putting in an entry adds its name, if it is new. -/
theorem names_setEntry (name : FileName) (t : FileTree) (l : List (FileName × FileTree)) :
    (setEntry name t l).map Prod.fst =
      if name ∈ l.map Prod.fst then l.map Prod.fst else l.map Prod.fst ++ [name] := by
  induction l with
  | nil => rfl
  | cons first rest ih =>
    unfold setEntry
    by_cases same : first.1 = name
    · simp [same]
    · rw [if_neg same, List.map_cons, List.map_cons, ih]
      have other : name ≠ first.1 := Ne.symm same
      by_cases there : name ∈ rest.map Prod.fst
      · rw [if_pos there, if_pos (List.mem_cons_of_mem _ there)]
      · have new : name ∉ first.1 :: rest.map Prod.fst := fun mem => (List.mem_cons.mp mem).elim other there
        rw [if_neg there, if_neg new, List.cons_append]

theorem nodup_setEntry {name : FileName} {t : FileTree} {l : List (FileName × FileTree)} (h : (l.map Prod.fst).Nodup) :
    ((setEntry name t l).map Prod.fst).Nodup := by
  rw [names_setEntry]
  split
  · exact h
  · rename_i new
    refine List.nodup_append.mpr ⟨h, List.pairwise_singleton _ name, fun a ha b hb same => new ?_⟩
    rwa [← List.mem_singleton.mp hb, ← same]

namespace WellFormed

variable {t new : FileTree}

theorem empty : FileTree.empty.WellFormed :=
  .folder .nil (List.forall_mem_nil _) (List.forall_mem_nil _)

theorem nodup (h : t.WellFormed) : (t.entries.map Prod.fst).Nodup := by
  cases h with
  | folder nodup => exact nodup
  | _ => exact .nil

theorem short (h : t.WellFormed) : ∀ e ∈ t.entries, e.1.size ≤ maxName := by
  cases h with
  | folder _ short => exact short
  | _ => exact List.forall_mem_nil _

theorem children (h : t.WellFormed) : ∀ e ∈ t.entries, e.2.WellFormed := by
  cases h with
  | folder _ _ children => exact children
  | _ => exact List.forall_mem_nil _

/-- What stands in a well-formed tree is well-formed. -/
theorem at? (h : t.WellFormed) {place : List FileName} {found : FileTree} (there : t.at? place = some found) :
    found.WellFormed := by
  induction place generalizing t with
  | nil =>
    obtain rfl := Option.some.inj there
    exact h
  | cons name rest ih =>
    obtain ⟨child, named, below⟩ := Option.bind_eq_some_iff.mp there
    exact ih (h.children _ (mem_of_lookup named)) below

/-- The name of what stands in a well-formed tree is not too long. -/
theorem name_of_at? (h : t.WellFormed) {place : List FileName} {name : FileName} {found : FileTree}
    (there : t.at? (place ++ [name]) = some found) : name.size ≤ maxName := by
  rw [at?_append] at there
  obtain ⟨above, reached, below⟩ := Option.bind_eq_some_iff.mp there
  obtain ⟨child, named, -⟩ := Option.bind_eq_some_iff.mp below
  exact (h.at? reached).short _ (mem_of_lookup named)

/-! ## Changes of a tree -/

/-- An entry may be put into a folder. -/
theorem setEntry (h : t.WellFormed) {name : FileName} (short : name.size ≤ maxName) (hnew : new.WellFormed) :
    (FileTree.folder (FileTree.setEntry name new t.entries)).WellFormed := by
  refine .folder (nodup_setEntry h.nodup) ?_ ?_
  · intro e mem
    rcases mem_setEntry mem with rfl | mem
    · exact short
    · exact h.short e mem
  · intro e mem
    rcases mem_setEntry mem with rfl | mem
    · exact hnew
    · exact h.children e mem

theorem put (hnew : new.WellFormed) {place : List FileName} (short : ShortNames place) (h : t.WellFormed) :
    (FileTree.put new place t).WellFormed := by
  induction place generalizing t with
  | nil => exact hnew
  | cons name rest ih =>
    obtain ⟨first, others⟩ := List.forall_mem_cons.mp short
    refine h.setEntry first (ih others ?_)
    cases named : t.entries.lookup name with
    | none => exact .empty
    | some child => exact h.children _ (mem_of_lookup named)

theorem erase (h : t.WellFormed) (place : List FileName) : (FileTree.erase place t).WellFormed := by
  fun_induction FileTree.erase place t with
  | case1 => exact h
  | case2 t name =>
    refine .folder (h.nodup.sublist (List.filter_sublist.map Prod.fst)) ?_ ?_
    · intro e mem
      exact h.short e (List.mem_filter.mp mem).1
    · intro e mem
      exact h.children e (List.mem_filter.mp mem).1
  | case3 t name rest _ child named ih =>
    have mem := mem_of_lookup named
    exact h.setEntry (h.short _ mem) (ih (h.children _ mem))
  | case4 => exact h

end WellFormed

theorem shortNames_walk {root : FileTree} {back final : List FileName} {steps : List String} (h : walk root back steps = .ok final)
    (short : ShortNames back) : ShortNames final := by
  fun_induction walk root back steps with
  | case1 =>
    obtain rfl := Except.ok.inj h
    exact short
  | case3 back rest entries _ ih => exact ih h fun name mem => short name (List.mem_of_mem_tail mem)
  | case5 back step rest entries _ _ fits _ =>
    obtain rfl := Except.ok.inj h
    exact List.forall_mem_cons.mpr ⟨Nat.le_of_not_lt fits, short⟩
  | case6 back step rest entries _ _ fits _ _ ih =>
    exact ih h (List.forall_mem_cons.mpr ⟨Nat.le_of_not_lt fits, short⟩)
  | _ => cases h

/-- A path leads to a place without names that are too long. -/
theorem shortNames_place {root : FileTree} {path : String} {place : List FileName} (h : root.place path = .ok place) :
    ShortNames place := by
  obtain ⟨-, -, -, walked⟩ := Pattern.place_eq_ok_iff.mp h
  intro name mem
  exact shortNames_walk walked (List.forall_mem_nil _) name (List.mem_reverse.mpr mem)

/-! ## What a change keeps -/

/-- From well-formed trees a change leads to well-formed ones, and what it comes to is such as `Q` says. -/
def Change.Keeps {α : Type} (c : Change α) (Q : α → Prop) : Prop :=
  ∀ t : FileTree, t.WellFormed → (c.run t).2.WellFormed ∧ ∀ a, (c.run t).1 = .ok a → Q a

section

open Change (Keeps)

variable {α β : Type} {Q : α → Prop} {R : β → Prop}

theorem keeps_pure {a : α} (h : Q a) : Keeps (pure a) Q := by
  intro t ht
  refine ⟨ht, fun b same => ?_⟩
  cases same
  exact h

theorem keeps_throw {e : SystemFailure} : Keeps (throw e) Q :=
  fun _ ht => ⟨ht, fun _ same => nomatch same⟩

theorem keeps_get : Keeps get FileTree.WellFormed := by
  intro t ht
  refine ⟨ht, fun root same => ?_⟩
  cases same
  exact ht

theorem keeps_modify {f : FileTree → FileTree} (h : ∀ t, t.WellFormed → (f t).WellFormed) :
    Keeps (modify f) fun _ => True :=
  fun t ht => ⟨h t ht, fun _ _ => trivial⟩

theorem keeps_look {f : FileTree → Except SystemFailure α} (h : ∀ t a, f t = .ok a → Q a) : Keeps (Change.look f) Q :=
  fun t ht => ⟨ht, h t⟩

theorem Change.Keeps.bind {c : Change α} {next : α → Change β} (first : Keeps c Q)
    (second : ∀ a, Q a → Keeps (next a) R) : Keeps (c >>= next) R := by
  intro t ht
  obtain ⟨kept, good⟩ := first t ht
  have run : (c >>= next).run t = match c.run t with
      | (.ok a, u) => (next a).run u
      | (.error e, u) => (.error e, u) := by
    rw [ExceptT.run_bind]
    change StateT.bind c.run _ t = _
    unfold StateT.bind
    obtain ⟨x, u⟩ := c.run t
    cases x <;> rfl
  rw [run]
  generalize c.run t = r at kept good
  obtain ⟨x, u⟩ := r
  cases x with
  | ok a => exact second a (good a rfl) u kept
  | error e => exact ⟨kept, fun _ same => nomatch same⟩

theorem Change.Keeps.attempt {c : Change α} (h : Keeps c Q) : Keeps c.attempt fun _ => True :=
  fun t ht => ⟨(h t ht).1, fun _ _ => trivial⟩

theorem keeps_place (path : String) : Keeps (Change.look (·.place path)) ShortNames :=
  keeps_look fun _ _ => shortNames_place

theorem makeFolder_keeps (path : String) : Keeps (makeFolder path) fun _ => True := by
  unfold makeFolder
  refine (keeps_place path).bind fun place short => keeps_get.bind fun root _ => ?_
  split
  · exact (keeps_throw (Q := fun _ => False)).bind fun _ none => none.elim
  · exact keeps_modify fun t ht => WellFormed.put .empty short ht

theorem settle_keeps (path : String) (result : Except SystemFailure Unit) :
    Keeps (makeFoldersAt.settle path result) fun _ => True := by
  unfold makeFoldersAt.settle
  cases result with
  | ok => exact keeps_pure trivial
  | error e =>
    refine keeps_get.bind fun root _ => ?_
    split
    · exact keeps_pure trivial
    · exact keeps_throw

theorem makeFoldersAt_keeps (fromRoot : Bool) (above : List String) :
    Keeps (makeFoldersAt fromRoot above) fun _ => True := by
  induction above with
  | nil =>
    unfold makeFoldersAt
    split
    · exact keeps_throw
    · exact keeps_pure trivial
  | cons step above ih =>
    unfold makeFoldersAt
    refine (makeFolder_keeps _).attempt.bind fun made _ => ?_
    split
    · exact keeps_pure trivial
    · exact ih.bind fun _ _ => (makeFolder_keeps _).attempt.bind fun again _ => settle_keeps _ again
    · exact settle_keeps _ _

theorem makeFolders_keeps (path : String) : Keeps (makeFolders path) fun _ => True := by
  unfold makeFolders
  split
  · exact keeps_pure trivial
  · exact makeFoldersAt_keeps _ _

theorem removeFolder_keeps (path : String) : Keeps (removeFolder path) fun _ => True := by
  unfold removeFolder
  refine (keeps_place path).bind fun place _ => keeps_get.bind fun root _ => ?_
  split
  · exact keeps_throw
  · exact keeps_modify fun t ht => ht.erase place
  · exact keeps_throw
  · exact keeps_throw

theorem write_keeps (path text : String) : Keeps (write path text) fun _ => True := by
  unfold write
  refine (keeps_place path).bind fun place short => keeps_get.bind fun root _ => ?_
  have written : Keeps (modify (put (.file text) place)) fun _ => True :=
    keeps_modify fun t ht => WellFormed.put (.file text) short ht
  split
  · exact keeps_throw
  · exact keeps_throw
  · exact keeps_throw
  · exact written
  · exact written
  · split
    · exact keeps_throw
    · exact written

end

end FileTree

/-! ## The files of a site -/

/-- Whatever is asked of a site, its files stay well-formed. -/
theorem Site.wellFormed_answer (c : Call) (s : Site) (h : s.files.WellFormed) :
    (Site.answer c s).2.files.WellFormed := by
  cases c with
  | cluster region r =>
    refine (congrArg FileTree.WellFormed ?_).mpr h
    exact Site.serve_keeps (·.files) (fun _ => rfl) (Site.askCluster_keeps _ (fun _ _ => rfl) region r) s
  | orchestrator r =>
    refine (congrArg FileTree.WellFormed ?_).mpr h
    exact Site.serve_keeps (·.files) (fun _ => rfl) (fun _ => rfl) s
  | mounts r =>
    refine (congrArg FileTree.WellFormed ?_).mpr h
    exact Site.serve_keeps (·.files) (fun _ => rfl) (fun _ => rfl) s
  | makeFolders path => exact (FileTree.makeFolders_keeps path s.files h).1
  | removeFolder path => exact (FileTree.removeFolder_keeps path s.files h).1
  | writeFile path text => exact (FileTree.write_keeps path text s.files h).1
  | _ => exact h

/-- Every tree that was looked at is well-formed. -/
def History.SeesWellFormed (past : History) : Prop :=
  ∀ root : FileTree, (⟨.files, root⟩ : Program.Exchange collaborators) ∈ past → root.WellFormed

/-- So all that is ever seen of the files of a site is well-formed. -/
theorem Site.wellFormed_replays {s t : Site} {past : History}
    (replays : Program.Replays (I := collaborators) Site.answer s past t) (h : s.files.WellFormed) :
    t.files.WellFormed ∧ past.SeesWellFormed := by
  induction replays with
  | nil => exact ⟨h, fun _ mem => nomatch mem⟩
  | @cons past t c _ ih =>
    obtain ⟨here, seen⟩ := ih
    refine ⟨Site.wellFormed_answer c t here, fun root mem => ?_⟩
    rcases List.mem_cons.mp mem with latest | mem
    · obtain ⟨rfl, answered⟩ := Program.Exchange.mk.inj latest
      obtain rfl := eq_of_heq answered
      exact here
    · exact seen root mem

end ClusterVolumes
