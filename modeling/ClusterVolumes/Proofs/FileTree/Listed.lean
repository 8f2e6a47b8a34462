import ClusterVolumes.Proofs.FileTree.WellFormed

/-!
# What stands below a path

`FileTree.listed` is the folder to which a path leads, with its entries. In a well-formed tree the pattern of a path
without wildcards and a star gives those of them whose names are texts, in rising order (`Pattern.places_listed`), also
where the path leads to no folder: step by step the pattern goes where the path is walked, or nowhere
(`Pattern.expand_walk`).
-/

namespace ClusterVolumes

namespace FileTree

/-- The entries of what stands at a place; only a folder has any. -/
def entriesAt (root : FileTree) (place : List FileName) : List (FileName × FileTree) :=
  ((root.at? place).map entries).getD []

/-- The entries of the folder to which a path leads; there are none if it leads to no folder. -/
def listed (root : FileTree) (path : String) : List (FileName × FileTree) :=
  match root.walk [] (steps path) with
  | .ok back => root.entriesAt back.reverse
  | .error _ => []

variable {root : FileTree}

theorem WellFormed.nodup_entriesAt (h : root.WellFormed) (place : List FileName) :
    ((root.entriesAt place).map Prod.fst).Nodup := by
  unfold entriesAt
  cases there : root.at? place with
  | none => exact .nil
  | some t => exact (h.at? there).nodup

/-- An entry is found by its name. -/
theorem lookup_of_mem {l : List (FileName × FileTree)} (nodup : (l.map Prod.fst).Nodup) {e : FileName × FileTree}
    (mem : e ∈ l) : l.lookup e.1 = some e.2 := by
  induction l with
  | nil => cases mem
  | cons first rest ih =>
    obtain ⟨new, nodup⟩ := List.nodup_cons.mp nodup
    rcases List.mem_cons.mp mem with rfl | mem
    · exact List.lookup_cons_self
    · have other : e.1 ≠ first.1 := fun same => new (same ▸ List.mem_map_of_mem mem)
      rw [List.lookup_cons, beq_false_of_ne other]
      exact ih nodup mem

theorem mem_names {t : FileTree} {name : String} : name ∈ t.names ↔ ∃ child, (.text name, child) ∈ t.entries := by
  unfold names
  rw [List.mem_filterMap]
  constructor
  · rintro ⟨⟨held, child⟩, mem, named⟩
    cases held with
    | text _ =>
      obtain rfl := Option.some.inj named
      exact ⟨child, mem⟩
    | bytes => cases named
  · rintro ⟨child, mem⟩
    exact ⟨_, mem, rfl⟩

end FileTree

namespace Pattern

variable {root : FileTree}

theorem isFolderAt_iff {place : List FileName} :
    isFolderAt root place = true ↔ ∃ entries, root.at? place = some (.folder entries) := by
  unfold isFolderAt
  constructor
  · intro folder
    cases there : root.at? place with
    | none => simp [there] at folder
    | some t =>
      cases t with
      | folder entries => exact ⟨entries, rfl⟩
      | _ => simp [there, FileTree.isFolder] at folder
  · intro folder
    obtain ⟨entries, there⟩ := folder
    rw [there]
    rfl

/-- What is no folder has no entries. -/
theorem entries_off {place : List FileName} (h : isFolderAt root place = false) : root.entriesAt place = [] := by
  unfold FileTree.entriesAt
  cases there : root.at? place with
  | none => rfl
  | some t =>
    cases t with
    | folder entries =>
      rw [isFolderAt_iff.mpr ⟨entries, there⟩] at h
      cases h
    | _ => rfl

/-- An entry stands below its folder. -/
theorem at?_entry (place : List FileName) (name : FileName) :
    root.at? (place ++ [name]) = (root.entriesAt place).lookup name := by
  rw [FileTree.at?_append, FileTree.entriesAt]
  cases root.at? place <;> simp [FileTree.at?]

/-- The entries to which steps and a star lead from a place. -/
def starBehind (root : FileTree) (back : List FileName) (steps : List String) : List (List FileName) :=
  match root.walk back steps with
  | .ok final => expand root false [[.anyText]] final.reverse
  | .error _ => []

theorem starBehind_nil (back : List FileName) : starBehind root back [] = expand root false [[.anyText]] back.reverse :=
  rfl

/-- Behind a place there are its entries under texts. -/
theorem namedPlaces_eq (place : List FileName) : namedPlaces root place =
    (FileName.rising (fun name => [.text name]) (FileTree.folder (root.entriesAt place)).names).map
      fun name => place ++ [.text name] := by
  unfold namedPlaces FileTree.entriesAt
  cases root.at? place <;> rfl

/-- From what is no folder nothing is listed, -/
theorem starBehind_off {back : List FileName} (h : isFolderAt root back.reverse = false) (steps : List String) :
    starBehind root back steps = [] := by
  cases steps with
  | nil =>
    rw [starBehind_nil, expand_star, namedPlaces_eq, entries_off h]
    rfl
  | cons step rest =>
    unfold starBehind FileTree.walk
    cases there : root.at? back.reverse with
    | none => rfl
    | some t =>
      cases t with
      | folder entries =>
        rw [isFolderAt_iff.mpr ⟨entries, there⟩] at h
        cases h
      | _ => rfl

/-- and from a folder a step leads up, or to the entry of its name. -/
theorem starBehind_up {back : List FileName} (h : isFolderAt root back.reverse = true) (rest : List String) :
    starBehind root back (".." :: rest) = starBehind root back.tail rest := by
  obtain ⟨entries, folder⟩ := isFolderAt_iff.mp h
  unfold starBehind
  rw [FileTree.walk, folder]
  rfl

theorem starBehind_name (wf : root.WellFormed) {back : List FileName} (h : isFolderAt root back.reverse = true)
    {name : String} (down : name ≠ "..") (rest : List String) : starBehind root back (name :: rest) =
      if (root.at? (back.reverse ++ [.text name])).isSome then starBehind root (.text name :: back) rest else [] := by
  obtain ⟨entries, folder⟩ := isFolderAt_iff.mp h
  have entry : root.at? (back.reverse ++ [.text name]) = entries.lookup (.text name) := by
    rw [at?_entry, FileTree.entriesAt, folder]
    rfl
  rw [starBehind, FileTree.walk, folder]
  simp only [if_neg down, entry]
  cases named : entries.lookup (.text name) with
  | none =>
    have missing : expand root false [[.anyText]] (.text name :: back).reverse = [] := by
      rw [expand_star, namedPlaces, List.reverse_cons, entry, named]
      rfl
    simp only [Option.isSome_none, Bool.false_eq_true, if_false]
    split_ifs
    · rfl
    · exact missing
    · rfl
  | some child =>
    have short : ¬name.utf8ByteSize > FileTree.maxName := Nat.not_lt.mpr (wf.name_of_at? (entry.trans named))
    simp only [if_neg short, Option.isSome_some, if_true]
    cases rest with
    | nil => rfl
    | cons step rest => rfl

/-- From what is no folder a part that stands for itself leads nowhere. -/
theorem advance_off {place : List FileName} (h : isFolderAt root place = false) (p : List Char) :
    advance root (p.map Token.char) place = [] := by
  have off : ¬isFolderAt root place = true := by simp [h]
  by_cases still : p = [] ∨ p = ['.']
  · rw [advance_still still, if_neg off]
  · by_cases up : p = ['.', '.']
    · subst up
      rw [advance_up, if_neg off]
    · rw [advance_name still up, at?_entry, entries_off h]
      rfl

/-- Step by step the pattern of a plain path goes where the path is walked. -/
theorem expand_walk (wf : root.WellFormed) (ps : List (List Char)) (back : List FileName) :
    expand root false (ps.map (List.map Token.char) ++ [[.anyText]]) back.reverse =
      starBehind root back (stepsOf ps) := by
  induction ps generalizing back with
  | nil => rfl
  | cons p ps ih =>
    rw [List.map_cons, List.cons_append, expand_cons_plain]
    cases here : isFolderAt root back.reverse with
    | false =>
      rw [starBehind_off here, advance_off here]
      rfl
    | true =>
      by_cases still : p = [] ∨ p = ['.']
      · rw [advance_still still, if_pos here, List.flatMap_singleton, stepsOf_still still, ih]
      · rw [stepsOf_step still]
        by_cases up : p = ['.', '.']
        · subst up
          rw [advance_up, if_pos here, List.flatMap_singleton, List.dropLast_reverse, ih]
          exact (starBehind_up here _).symm
        · have down : String.ofList p ≠ ".." := fun e => up (by simpa using congrArg String.toList e)
          rw [advance_name still up, starBehind_name wf here down]
          split
          · rw [List.flatMap_singleton, ← List.reverse_cons, ih]
          · rfl

/-- **What a star lists.** In a well-formed tree the pattern of a path without wildcards and a star gives the entries of
the folder to which the path leads whose names are texts, in rising order of these, and nothing if it leads to no
folder. -/
theorem places_listed (wf : root.WellFormed) {path : String} (plain : Plain path.toList) (some_char : path.toList ≠ []) :
    ∃ place, places root (path ++ "/*") =
        .ok ((FileName.rising (fun name => [.text name]) (FileTree.folder (root.listed path)).names).map
          fun name => place ++ [.text name]) ∧
      ∀ e ∈ root.listed path, root.at? (place ++ [e.1]) = some e.2 := by
  obtain ⟨ps, steps, found⟩ := places_star root plain some_char
  have walked := expand_walk wf ps []
  rw [List.reverse_nil, steps] at walked
  rw [found, walked]
  unfold starBehind FileTree.listed
  cases root.walk [] (FileTree.steps path) with
  | error e => exact ⟨[], rfl, List.forall_mem_nil _⟩
  | ok back =>
    have listed := (expand_star root back.reverse).trans (namedPlaces_eq back.reverse)
    refine ⟨back.reverse, congrArg Except.ok listed, fun e mem => ?_⟩
    rw [at?_entry]
    exact FileTree.lookup_of_mem (wf.nodup_entriesAt back.reverse) mem

end Pattern

end ClusterVolumes
