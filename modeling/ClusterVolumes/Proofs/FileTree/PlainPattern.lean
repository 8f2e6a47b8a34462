import ClusterVolumes.FileTree.Pattern
import Mathlib.Tactic.Common

/-!
# Patterns of plain paths

A path without wildcards stands for itself in a pattern: each of its parts leads to the place to which the step leads
when the path is walked (`Pattern.expand_plain`). So behind such a path the pattern `*` lists what the folder that is
found there has under names that are texts, sorted by these names: `Pattern.places_plain`.
-/

namespace ClusterVolumes

/-! ## Places -/

namespace FileTree

/-- What stands at a place is found from every place on the way. -/
theorem at?_append (root : FileTree) (place more : List FileName) :
    root.at? (place ++ more) = (root.at? place).bind fun t => t.at? more := by
  induction place generalizing root with
  | nil => rfl
  | cons step place ih => cases h : root.entries.lookup step <;> simp [at?, h, ih]

/-- What is found under a name is an entry of that name. -/
theorem mem_of_lookup {l : List (FileName × FileTree)} {name : FileName} {child : FileTree}
    (h : l.lookup name = some child) : (name, child) ∈ l := by
  obtain ⟨before, after, rfl, -⟩ := List.lookup_eq_some_iff.mp h
  exact List.mem_append_right before List.mem_cons_self

/-- What has something below it is a folder with an entry. -/
theorem entry_of_at? {root : FileTree} {place more : List FileName} {name : FileName} {t : FileTree}
    (h : root.at? (place ++ name :: more) = some t) :
    ∃ entries, root.at? place = some (.folder entries) ∧ ∃ child, (name, child) ∈ entries := by
  rw [at?_append] at h
  obtain ⟨there, hthere, hmore⟩ := Option.bind_eq_some_iff.mp h
  obtain ⟨child, hchild, -⟩ := Option.bind_eq_some_iff.mp hmore
  cases there with
  | folder entries => exact ⟨entries, hthere, child, mem_of_lookup hchild⟩
  | _ => cases hchild

end FileTree

namespace Pattern

/-- The characters that begin a wildcard. -/
def wildcards : List Char := ['?', '*', '[']

/-- A text without wildcards. -/
def Plain (cs : List Char) : Prop :=
  ∀ c ∈ cs, c ∉ wildcards

instance (cs : List Char) : Decidable (Plain cs) :=
  List.decidableBAll (fun c => c ∉ wildcards) cs

/-! ## Tokens -/

theorem scan_char {fuel n : Nat} {before : Option Char} {c : Char} {rest : List Char} (h : c ∉ wildcards) :
    scan (fuel + 1) n before (c :: rest) = (scan fuel (n + 1) (some c) rest).map (.char c :: ·) := by
  simp only [wildcards, List.mem_cons, List.not_mem_nil, or_false, not_or] at h
  obtain ⟨question, star, bracket⟩ := h
  rw [scan]
  · exact question
  · exact star
  · exact fun _ e _ => bracket e
  · exact bracket

/-- Characters without wildcards are scanned one by one, up to where the rest is scanned. -/
theorem scan_plain {cs rest : List Char} {fuel : Nat} {ts : List Token} (h : Plain cs)
    (behind : ∀ n before, scan fuel n before rest = .ok ts) (n : Nat) (before : Option Char) :
    scan (cs.length + fuel) n before (cs ++ rest) = .ok (cs.map Token.char ++ ts) := by
  induction cs generalizing n before with
  | nil =>
    rw [List.length_nil, Nat.zero_add]
    exact behind n before
  | cons c cs ih =>
    obtain ⟨hc, hcs⟩ := List.forall_mem_cons.mp h
    have length : (c :: cs).length + fuel = cs.length + fuel + 1 := by
      rw [List.length_cons]
      omega
    rw [length, List.cons_append, scan_char hc, ih hcs]
    rfl

theorem tokens_plain {cs : List Char} (h : Plain cs) : tokens cs = .ok (cs.map Token.char) := by
  have scanned : scan (cs.length + 0) 0 none (cs ++ []) = .ok (cs.map Token.char ++ []) :=
    scan_plain h (fun _ _ => rfl) 0 none
  rwa [List.append_nil, List.append_nil] at scanned

/-- A pattern is a plain path with a star behind it. -/
theorem tokens_plain_star {cs : List Char} (h : Plain cs) :
    tokens (cs ++ ['/', '*']) = .ok (cs.map Token.char ++ [.char '/', .anyText]) := by
  unfold tokens
  rw [List.length_append]
  exact scan_plain h (fun _ _ => rfl) 0 none

/-! ## Parts that stand for themselves -/

theorem literal?_plain (cs : List Char) : literal? (cs.map Token.char) = some cs := by
  induction cs with
  | nil => rfl
  | cons c cs ih => simp [literal?, ih]

/-- A part that stands for itself leads from a place before the other parts do. -/
theorem expand_cons_plain (root : FileTree) (cs : List Char) (more : List (List Token)) (place : List FileName) :
    expand root false (cs.map Token.char :: more) place =
      (advance root (cs.map Token.char) place).flatMap (expand root false more) := by
  cases cs <;> rfl

/-- The steps of a path that is cut into pieces. -/
def stepsOf (ps : List (List Char)) : List String :=
  (ps.map String.ofList).filter fun s => !s.isEmpty && s ≠ "."

section

variable {root : FileTree} {place : List FileName} {p : List Char} {ps : List (List Char)}

/-- A part that means the folder itself is no step, -/
theorem stepsOf_still (h : p = [] ∨ p = ['.']) : stepsOf (p :: ps) = stepsOf ps := by
  rcases h with rfl | rfl <;> rfl

theorem advance_still (h : p = [] ∨ p = ['.']) :
    advance root (p.map Token.char) place = if isFolderAt root place then [place] else [] := by
  rcases h with rfl | rfl <;> rfl

/-- and any other part is a step. -/
theorem stepsOf_step (h : ¬(p = [] ∨ p = ['.'])) : stepsOf (p :: ps) = String.ofList p :: stepsOf ps := by
  obtain ⟨named, no_dot⟩ := not_or.mp h
  have not_dot : String.ofList p ≠ "." := fun e => no_dot (by simpa using congrArg String.toList e)
  simp [stepsOf, named, not_dot]

theorem advance_up :
    advance root (['.', '.'].map Token.char) place = if isFolderAt root place then [place.dropLast] else [] :=
  rfl

/-- A name leads to the entry of that name. -/
theorem advance_name (h : ¬(p = [] ∨ p = ['.'])) (down : p ≠ ['.', '.']) : advance root (p.map Token.char) place =
    if (root.at? (place ++ [.text (String.ofList p)])).isSome then [place ++ [.text (String.ofList p)]] else [] := by
  obtain ⟨named, no_dot⟩ := not_or.mp h
  unfold advance
  rw [literal?_plain]
  split
  · rename_i e
    exact absurd (Option.some.inj e) named
  · rename_i e
    exact absurd (Option.some.inj e) no_dot
  · rename_i e
    exact absurd (Option.some.inj e) down
  · rename_i e
    obtain rfl := Option.some.inj e
    rfl
  · rename_i e
    cases e

end

/-- A path is walked from a folder if it leads to one. -/
theorem isFolderAt_of_walk {root : FileTree} {back final : List FileName} {steps : List String}
    (h : FileTree.walk root back steps = .ok final) (folder : isFolderAt root final.reverse = true) :
    isFolderAt root back.reverse = true := by
  cases steps with
  | nil =>
    obtain rfl := Except.ok.inj h
    exact folder
  | cons step rest =>
    unfold FileTree.walk at h
    unfold isFolderAt
    cases e : root.at? back.reverse with
    | none => simp [e] at h
    | some t =>
      cases t with
      | folder entries => rfl
      | _ => simp [e] at h

/-- A place in a tree is there if what is below it is there. -/
theorem isSome_of_isFolderAt {root : FileTree} {place : List FileName} (h : isFolderAt root place = true) :
    (root.at? place).isSome = true := by
  unfold isFolderAt at h
  cases e : root.at? place with
  | none => simp [e] at h
  | some t => rfl

/-- The first step of a path is made from a folder, and the path is walked on from where it leads. -/
theorem walk_cons {root : FileTree} {back final : List FileName} {rest : List String} {step : String}
    (h : FileTree.walk root back (step :: rest) = .ok final) :
    FileTree.walk root (if step = ".." then back.tail else .text step :: back) rest = .ok final := by
  unfold FileTree.walk at h
  split at h
  · cases h
  · split at h
    · rename_i up
      rwa [if_pos up]
    · rename_i down
      rw [if_neg down]
      split at h
      · cases h
      · split at h
        · rename_i last
          rw [List.isEmpty_iff.mp last]
          exact h
        · split at h
          · exact h
          · cases h
  · cases h

/-- Parts that stand for themselves lead to the place to which their steps are walked. -/
theorem expand_plain {root : FileTree} {final : List FileName} (folder : isFolderAt root final.reverse = true)
    (more : List (List Token)) {ps : List (List Char)} {back : List FileName}
    (walked : FileTree.walk root back (stepsOf ps) = .ok final) :
    expand root false (ps.map (List.map Token.char) ++ more) back.reverse = expand root false more final.reverse := by
  induction ps generalizing back with
  | nil =>
    obtain rfl := Except.ok.inj walked
    rfl
  | cons p ps ih =>
    have here := isFolderAt_of_walk walked folder
    rw [List.map_cons, List.cons_append, expand_cons_plain]
    by_cases still : p = [] ∨ p = ['.']
    · rw [advance_still still, if_pos here, List.flatMap_singleton]
      exact ih (stepsOf_still still ▸ walked)
    · have next := walk_cons (stepsOf_step still ▸ walked)
      by_cases up : p = ['.', '.']
      · subst up
        rw [advance_up, if_pos here, List.flatMap_singleton, List.dropLast_reverse]
        exact ih (by simpa using next)
      · have down : String.ofList p ≠ ".." := fun e => up (by simpa using congrArg String.toList e)
        rw [if_neg down] at next
        have there := isSome_of_isFolderAt (isFolderAt_of_walk next folder)
        rw [List.reverse_cons] at there
        rw [advance_name still up, if_pos there, List.flatMap_singleton, ← List.reverse_cons]
        exact ih next

/-! ## The entries of a folder -/

theorem nil_mem_suffixes (cs : List Char) : [] ∈ suffixes cs := by
  induction cs with
  | nil => exact List.mem_singleton.mpr rfl
  | cons c cs ih => exact List.mem_cons_of_mem _ ih

/-- The places of what a folder has under names that are texts, sorted by these names. -/
def namedPlaces (root : FileTree) (place : List FileName) : List (List FileName) :=
  (FileName.rising (fun name => [.text name]) (((root.at? place).map FileTree.names).getD [])).map fun name =>
    place ++ [.text name]

/-- A star leads from a place to these; only a folder has any. -/
theorem expand_star (root : FileTree) (place : List FileName) :
    expand root false [[.anyText]] place = namedPlaces root place := by
  have any_name (cs : List Char) : accepts [.anyText] cs = true := by
    rw [accepts]
    exact List.any_eq_true.mpr ⟨[], nil_mem_suffixes cs, rfl⟩
  have all (names : List String) : names.filter (fun name => accepts [.anyText] name.toList) = names :=
    List.filter_eq_self.mpr fun name _ => any_name name.toList
  have ends : expand root false [[.anyText]] place = (advance root [.anyText] place).flatMap fun there => [there] := rfl
  rw [ends, List.flatMap_singleton']
  simp [advance, literal?, dotted, all, namedPlaces]

/-- The parts of a path with a star behind it are those of the path and the star. -/
theorem parts_star {path : String} (h : path.toList ≠ []) :
    ∃ ps, parts (path ++ "/*") = ps ++ [['*']] ∧ stepsOf ps = FileTree.steps path ∧
      ∀ p ∈ ps, ∀ c ∈ p, c ∈ path.toList := by
  have last (l : List (List Char)) : (l ++ [['*']]).getLast? ≠ some [] := by simp
  have cut (cs : List Char) : Text.pieces '/' (cs ++ ['/', '*']) = Text.pieces '/' cs ++ [['*']] :=
    Text.pieces_append '/' cs ['*']
  unfold parts
  rw [String.toList_append, show "/*".toList = ['/', '*'] from rfl]
  cases e : path.toList with
  | nil => exact absurd e h
  | cons c cs =>
    by_cases lead : c = '/'
    · refine ⟨Text.pieces '/' cs, ?_, ?_, fun p hp d hd => List.mem_cons_of_mem c (Text.mem_of_mem_pieces hp hd)⟩
      · subst lead
        simp [cut]
      · subst lead
        simp [FileTree.steps, e, Text.pieces, stepsOf]
    · refine ⟨Text.pieces '/' (c :: cs), ?_, ?_, fun p hp d hd => Text.mem_of_mem_pieces hp hd⟩
      · have whole := cut (c :: cs)
        rw [List.cons_append] at whole
        simp [lead, whole]
      · simp [FileTree.steps, e, stepsOf]

theorem mapM_eq_ok {α β ε : Type} {f : α → Except ε β} {g : α → β} {l : List α} (h : ∀ a ∈ l, f a = .ok (g a)) :
    l.mapM f = .ok (l.map g) := by
  induction l with
  | nil => rfl
  | cons a l ih =>
    obtain ⟨ha, hl⟩ := List.forall_mem_cons.mp h
    rw [List.mapM_cons, ha, ih hl]
    rfl

/-- The place of a path is where its steps are walked from the root, if the path is none that a system refuses. -/
theorem place_eq_ok_iff {root : FileTree} {path : String} {place : List FileName} :
    root.place path = .ok place ↔
      '\x00' ∉ path.toList ∧ path.isEmpty = false ∧ path.utf8ByteSize < FileTree.maxPath ∧
        FileTree.walk root [] (FileTree.steps path) = .ok place.reverse := by
  have nul : path.contains '\x00' = true ↔ '\x00' ∈ path.toList := by
    rw [String.contains_char_eq, decide_eq_true_eq]
  simp only [FileTree.place, bind, Except.bind, throw, throwThe, MonadExceptOf.throw, pure, Except.pure]
  by_cases held : '\x00' ∈ path.toList
  · simp [held]
  rw [if_neg (mt nul.mp held)]
  cases path.isEmpty with
  | true => simp
  | false =>
    by_cases long : path.utf8ByteSize ≥ FileTree.maxPath
    · simp [long, Nat.not_lt.mpr long]
    · cases FileTree.walk root [] (FileTree.steps path) with
      | error e => simp [long]
      | ok back => simp [long, held, Nat.lt_of_not_le long, List.reverse_eq_iff]

/-- Nothing is there at a path whose steps lead nowhere. -/
theorem existsAt_of_lost {root : FileTree} {path : String}
    (lost : (FileTree.walk root [] (FileTree.steps path)).toOption = none) : root.existsAt path = false := by
  unfold FileTree.existsAt FileTree.find
  cases e : root.place path with
  | error f => rfl
  | ok place =>
    rw [(place_eq_ok_iff.mp e).2.2.2] at lost
    cases lost

/-- The pattern of a path without wildcards and a star is made of the steps of the path and the star. -/
theorem places_star (root : FileTree) {path : String} (plain : Plain path.toList) (some_char : path.toList ≠ []) :
    ∃ ps, stepsOf ps = FileTree.steps path ∧
      places root (path ++ "/*") = .ok (expand root false (ps.map (List.map Token.char) ++ [[.anyText]]) []) := by
  obtain ⟨ps, hparts, hsteps, hchars⟩ := parts_star some_char
  have read : (ps ++ [['*']]).mapM tokens = .ok (ps.map (List.map Token.char) ++ [[.anyText]]) := by
    have each := mapM_eq_ok (f := tokens) (g := List.map Token.char) (l := ps)
      fun p hp => tokens_plain fun c hc => plain c (hchars p hp c hc)
    rw [List.mapM_append, each]
    rfl
  refine ⟨ps, hsteps, ?_⟩
  unfold places
  rw [String.toList_append, show "/*".toList = ['/', '*'] from rfl, tokens_plain_star plain, hparts, read]
  rfl

/-- **Behind a plain path a star lists a folder.** The pattern of a path without wildcards and a star gives the places of
what the folder to which the path leads has under names that are texts. -/
theorem places_plain {root : FileTree} {path : String} {place : List FileName} {entries : List (FileName × FileTree)}
    (plain : Plain path.toList) (found : root.place path = .ok place) (h : root.at? place = some (.folder entries)) :
    places root (path ++ "/*") = .ok (namedPlaces root place) := by
  obtain ⟨-, nonempty, -, walked⟩ := place_eq_ok_iff.mp found
  obtain ⟨ps, hsteps, listed⟩ := places_star root plain (by simpa using nonempty)
  have folder : isFolderAt root place.reverse.reverse = true := by simp [isFolderAt, h, FileTree.isFolder]
  have leads := expand_plain folder [[.anyText]] (hsteps ▸ walked)
  rw [List.reverse_nil, List.reverse_reverse, expand_star] at leads
  rw [listed, leads]

end Pattern

end ClusterVolumes
