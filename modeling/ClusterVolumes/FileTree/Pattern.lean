import ClusterVolumes.FileTree

/-!
# Patterns of paths

In a pattern `?` stands for one character, `*` for any text, `[a-c]` and `[!a-c]` for one character
that is or is not in the class, and a part that is `**` for any number of folders. `Pattern.places`
lists the places of a tree that match, in rising order of their names. A name that is no text matches
nothing.
-/

namespace ClusterVolumes

/-- Why a text is no pattern, and where it stops being one. -/
inductive PatternFault
  | wildcards (position : Nat)
  | recursive (position : Nat)
  | range (position : Nat)
  deriving DecidableEq, Repr

/-- The text shown for a fault in a pattern. -/
def PatternFault.message : PatternFault → String
  | wildcards n => lead n ++ "wildcards are either regular `*` or recursive `**`"
  | recursive n => lead n ++ "recursive wildcards must form a single path component"
  | range n => lead n ++ "invalid range pattern"
where
  /-- The position of a fault. -/
  lead (n : Nat) : String := "Pattern syntax error near position " ++ toString n ++ ": "

namespace Pattern

/-- A piece of a pattern. -/
inductive Token
  | char (c : Char)
  | anyChar
  | anyText
  | anyDepth
  | within (ranges : List (Char × Char))
  | outside (ranges : List (Char × Char))
  deriving DecidableEq, Repr

/-- The ranges of a class: `a-c` is a range, and any other character stands for itself. -/
def ranges : List Char → List (Char × Char)
  | a :: '-' :: b :: rest => (a, b) :: ranges rest
  | a :: rest => (a, a) :: ranges rest
  | [] => []

/-- The characters of a class and what stands behind it; its first character may be a closing
bracket. -/
def cutClass : List Char → Option (List Char × List Char)
  | [] => none
  | first :: rest => (Text.cutFirst ']' rest).map fun (a, b) => (first :: a, b)

/-- The tokens of a pattern. `position` counts the characters before and `before` is the last of
them. -/
def scan : (fuel : Nat) → (position : Nat) → (before : Option Char) → List Char →
    Except PatternFault (List Token)
  | 0, _, _, _ => .ok []
  | _, _, _, [] => .ok []
  | fuel + 1, n, _, '?' :: rest => (scan fuel (n + 1) (some '?') rest).map (.anyChar :: ·)
  | fuel + 1, n, before, '*' :: rest =>
    match (rest.takeWhile (· = '*')).length with
    | 0 => (scan fuel (n + 1) (some '*') rest).map (.anyText :: ·)
    | 1 =>
      if before.isSome && before ≠ some '/' then .error (.recursive (n - 1))
      else match rest.tail with
        | [] => .ok [.anyDepth]
        | '/' :: rest => (scan fuel (n + 3) (some '/') rest).map (.anyDepth :: ·)
        | _ => .error (.recursive (n + 2))
    | _ => .error (.wildcards (n + 2))
  | fuel + 1, n, _, '[' :: '!' :: rest =>
    match cutClass rest with
    | some (members, behind) =>
      (scan fuel (n + members.length + 3) (some ']') behind).map (.outside (ranges members) :: ·)
    | none => .error (.range n)
  | fuel + 1, n, _, '[' :: rest =>
    match cutClass rest with
    | some (members, behind) =>
      (scan fuel (n + members.length + 2) (some ']') behind).map (.within (ranges members) :: ·)
    | none => .error (.range n)
  | fuel + 1, n, _, c :: rest => (scan fuel (n + 1) (some c) rest).map (.char c :: ·)

/-- The tokens of a pattern. -/
def tokens (cs : List Char) : Except PatternFault (List Token) :=
  scan cs.length 0 none cs

/-- The texts that remain when characters are taken away in front. -/
def suffixes : List Char → List (List Char)
  | [] => [[]]
  | c :: cs => (c :: cs) :: suffixes cs

/-- Is the character in one of the ranges? -/
def inRanges (c : Char) (l : List (Char × Char)) : Bool :=
  l.any fun (a, b) => a ≤ c && c ≤ b

/-- Does a name match? -/
def accepts : List Token → List Char → Bool
  | [], cs => cs.isEmpty
  | .char a :: ts, c :: cs => a = c && accepts ts cs
  | .anyChar :: ts, _ :: cs => accepts ts cs
  | .within l :: ts, c :: cs => inRanges c l && accepts ts cs
  | .outside l :: ts, c :: cs => !inRanges c l && accepts ts cs
  | .anyText :: ts, cs => (suffixes cs).any (accepts ts)
  | _ :: _, _ => false

/-- The name that a pattern without wildcards stands for. -/
def literal? : List Token → Option (List Char)
  | [] => some []
  | .char c :: ts => (literal? ts).map (c :: ·)
  | _ :: _ => none

mutual

/-- The places below a place. -/
def below (place : List FileName) : FileTree → List (List FileName)
  | .folder entries => belowAll place entries
  | _ => []

/-- The places of the entries of a folder and those below them. -/
def belowAll (place : List FileName) : List (FileName × FileTree) → List (List FileName)
  | [] => []
  | (name, t) :: rest => (place ++ [name]) :: below (place ++ [name]) t ++ belowAll place rest

end

/-- What stands at a place is a folder. -/
def isFolderAt (root : FileTree) (place : List FileName) : Bool :=
  ((root.at? place).map FileTree.isFolder).getD false

/-- The folder above a place and the place itself, as far as their names `..` and `.` match. Only a
part that begins with a dot can mean them. -/
def dotted (root : FileTree) (part : List Token) (place : List FileName) :
    List (List FileName) :=
  if part.head? = some (.char '.') && isFolderAt root place then
    [(['.', '.'], place.dropLast), (['.'], place)].filterMap fun (name, there) =>
      if accepts part name then some there else none
  else []

/-- Does the last name of a place match? -/
def endsIn (part : List Token) (place : List FileName) : Bool :=
  (place.getLast?.bind FileName.text?).any fun name => accepts part name.toList

/-- The places to which one part of a pattern leads from a place. -/
def advance (root : FileTree) (part : List Token) (place : List FileName) :
    List (List FileName) :=
  match literal? part with
  | some [] | some ['.'] => if isFolderAt root place then [place] else []
  | some ['.', '.'] => if isFolderAt root place then [place.dropLast] else []
  | some name =>
    let there := place ++ [.text (String.ofList name)]
    if (root.at? there).isSome then [there] else []
  | none =>
    let names := ((root.at? place).map FileTree.names).getD []
    let matching := FileName.rising (fun name => [.text name])
      (names.filter fun name => accepts part name.toList)
    dotted root part place ++ matching.map fun name => place ++ [.text name]

/-- The places to which the parts of a pattern lead from a place. Behind `**` a part may be met at
any depth; a place stands before those below it. -/
def expand (root : FileTree) : (deep : Bool) → List (List Token) → (place : List FileName) →
    List (List FileName)
  | _, [], place => [place]
  | _, [.anyDepth] :: parts, place => expand root true parts place
  | false, part :: parts, place => (advance root part place).flatMap (expand root false parts)
  | true, part :: parts, place =>
    let there := FileName.rising id (((root.at? place).map (below place)).getD [])
    (there.filter (endsIn part)).flatMap (expand root false parts)

/-- The texts of the parts of a pattern: what stands between its slashes, but for a last empty
part. -/
def parts (pattern : String) : List (List Char) :=
  let cs := pattern.toList
  let l := Text.pieces '/' (if cs.head? = some '/' then cs.tail else cs)
  if l.getLast? = some [] then l.dropLast else l

/-- The places of a tree that match a pattern. -/
def places (root : FileTree) (pattern : String) : Except PatternFault (List (List FileName)) := do
  let _ ← tokens pattern.toList
  pure (expand root false (← (parts pattern).mapM tokens) [])

end Pattern

end ClusterVolumes
