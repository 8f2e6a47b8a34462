import ClusterVolumes.FileTree.Name
import ClusterVolumes.SystemFailure
import ClusterVolumes.Text.Cut

/-!
# File trees

The files of a node, or as much of them as the driver looks at. A folder lists its entries in no
order of their own. A path is walked from the root through folders, `.` stands for the folder itself
and `..` for the one above.

- `FileTree.find` says what stands at a path, or why nothing is found there;
- `FileTree.makeFolder`, `makeFolders`, `removeFolder`, `write`, `unlink` and `bind` change a tree
  and refuse for the reasons for which a system refuses;
- `FileTree.listing` lists all that is below a folder.
-/

namespace ClusterVolumes

/-- What stands at a place of a file system. A file holds a text, or else nothing that is read as
one. -/
inductive FileTree
  | folder (entries : List (FileName × FileTree))
  | file (text : String)
  | unreadable
  | socket
  | blockDevice
  deriving Inhabited

namespace FileTree

/-! ## Places

A place is the list of the names that lead to it from the root. -/

/-- A tree without entries. -/
def empty : FileTree := .folder []

/-- Is it a folder? -/
def isFolder : FileTree → Bool
  | .folder _ => true
  | _ => false

/-- The entries of a folder; nothing else has any. -/
def entries : FileTree → List (FileName × FileTree)
  | .folder l => l
  | _ => []

/-- The texts among the names of a folder's entries. -/
def names (t : FileTree) : List String :=
  t.entries.filterMap fun e => e.1.text?

/-- What stands at a place. -/
def at? (t : FileTree) : List FileName → Option FileTree
  | [] => some t
  | name :: rest => (t.entries.lookup name).bind fun child => child.at? rest

/-- Put an entry under a name, in place of the one that was there. -/
def setEntry (name : FileName) (t : FileTree) : List (FileName × FileTree) → List (FileName × FileTree)
  | [] => [(name, t)]
  | e :: rest => if e.1 = name then (name, t) :: rest else e :: setEntry name t rest

/-- Put something at a place, with the folders that lead to it. -/
def put (new : FileTree) : List FileName → FileTree → FileTree
  | [], _ => new
  | name :: rest, t => .folder (setEntry name (put new rest ((t.entries.lookup name).getD empty)) t.entries)

/-- Take away what stands at a place below the root. -/
def erase : List FileName → FileTree → FileTree
  | [], t => t
  | [name], t => .folder (t.entries.filter fun e => e.1 ≠ name)
  | name :: rest, t =>
    match t.entries.lookup name with
    | some child => .folder (setEntry name (child.erase rest) t.entries)
    | none => t

/-! ## Paths -/

/-- The greatest length of a name, in bytes. -/
def maxName : Nat := 255

/-- The length in bytes that a path must stay below. -/
def maxPath : Nat := 4096

/-- The steps of a path, without those that lead nowhere. -/
def steps (path : String) : List String :=
  ((Text.pieces '/' path.toList).map String.ofList).filter fun s => !s.isEmpty && s ≠ "."

/-- Does a path say by its end that it leads to a folder? -/
def wantsFolder (path : String) : Bool :=
  match (Text.pieces '/' path.toList).getLast? with
  | some last => last.isEmpty || last = ['.'] || last = ['.', '.']
  | none => false

/-- The place to which steps lead from a place, which is given with its last name first. Each step
is made from a folder; what the last one names need not be there. -/
def walk (root : FileTree) : (place : List FileName) → List String →
    Except SystemFailure (List FileName)
  | place, [] => .ok place
  | place, step :: rest =>
    match root.at? place.reverse with
    | none => .error .noSuchEntry
    | some (.folder entries) =>
      if step = ".." then walk root place.tail rest
      else if step.utf8ByteSize > maxName then .error .nameTooLong
      else if rest.isEmpty then .ok (.text step :: place)
      else if (entries.lookup (.text step)).isSome then walk root (.text step :: place) rest
      else .error .noSuchEntry
    | some _ => .error .notADirectory

/-- The place to which a path leads. A path without a leading slash starts at the root as well. -/
def place (root : FileTree) (path : String) : Except SystemFailure (List FileName) := do
  if path.contains '\x00' then throw .nulInPath
  if path.isEmpty then throw .noSuchEntry
  if path.utf8ByteSize ≥ maxPath then throw .nameTooLong
  pure (← walk root [] (steps path)).reverse

/-- What stands at a path. -/
def find (root : FileTree) (path : String) : Except SystemFailure FileTree := do
  match root.at? (← root.place path) with
  | none => throw .noSuchEntry
  | some t => if wantsFolder path && !t.isFolder then throw .notADirectory else pure t

/-- Does something stand at a path? -/
def existsAt (root : FileTree) (path : String) : Bool :=
  match root.find path with
  | .ok _ => true
  | .error _ => false

/-- The text of the file at a path. -/
def read (root : FileTree) (path : String) : Except SystemFailure String := do
  match ← root.find path with
  | .file text => pure text
  | .folder _ => throw .isADirectory
  | .unreadable => throw .invalidText
  | .socket | .blockDevice => throw .noSuchDevice

/-- A path followed by another one, which replaces it if it starts at the root. -/
def join (path more : String) : String :=
  if more.startsWith "/" || path.isEmpty then more
  else if path.endsWith "/" then path ++ more
  else path ++ "/" ++ more

/-! ## Changes -/

/-- A change of a tree, which may stop half-way. -/
abbrev Change (α : Type) : Type := ExceptT SystemFailure (StateM FileTree) α

namespace Change

/-- A question that is put to the tree. -/
def look {α : Type} (f : FileTree → Except SystemFailure α) : Change α :=
  ExceptT.mk do return f (← get)

/-- Make a change and go on in either case. -/
def attempt {α : Type} (c : Change α) : Change (Except SystemFailure α) :=
  ExceptT.mk do return .ok (← c.run)

end Change

/-- Make one folder in a folder that is there. -/
def makeFolder (path : String) : Change Unit := do
  let place ← Change.look (·.place path)
  if ((← get).at? place).isSome then throw .alreadyThere
  modify (put empty place)

/-- The path that a list of steps writes, the last step first. -/
def pathOf (fromRoot : Bool) (steps : List String) : String :=
  (if fromRoot then "/" else "") ++ Text.joinWith "/" steps.reverse

/-- Make a folder at a path after those that lead to it; `above` is the path's steps, the last one
first. -/
def makeFoldersAt (fromRoot : Bool) : (above : List String) → Change Unit
  | [] => do
    if fromRoot then throw .alreadyThere
  | step :: above => do
    let path := pathOf fromRoot (step :: above)
    match ← (makeFolder path).attempt with
    | .ok () => pure ()
    | .error (.errno 2) =>
      makeFoldersAt fromRoot above
      settle path (← (makeFolder path).attempt)
    | .error e => settle path (.error e)
where
  /-- It is no failure that the folder is there. -/
  settle (path : String) (result : Except SystemFailure Unit) : Change Unit := do
    match result with
    | .ok () => pure ()
    | .error e =>
      match (← get).find path with
      | .ok (.folder _) => pure ()
      | _ => throw e

/-- Make a folder at a path, after those that lead to it, unless it is there. -/
def makeFolders (path : String) : Change Unit := do
  match (steps path).reverse with
  | [] => pure ()
  | above => makeFoldersAt (path.startsWith "/") above

/-- Take away an empty folder. -/
def removeFolder (path : String) : Change Unit := do
  let place ← Change.look (·.place path)
  match (← get).at? place with
  | none => throw .noSuchEntry
  | some (.folder []) => modify (erase place)
  | some (.folder _) => throw .notEmpty
  | some _ => throw .notADirectory

/-- Take away what is no folder. -/
def unlink (path : String) : Change Unit := do
  match ← Change.look (·.find path) with
  | .folder _ => throw .isADirectory
  | _ => modify (erase (← Change.look (·.place path)))

/-- Write a file, in place of what it holds. -/
def write (path text : String) : Change Unit := do
  let place ← Change.look (·.place path)
  match (← get).at? place with
  | some (.folder _) => throw .isADirectory
  | some .socket | some .blockDevice => throw .noSuchDevice
  | some (.file _) | some .unreadable => modify (put (.file text) place)
  | none => if wantsFolder path then throw .isADirectory else modify (put (.file text) place)

/-- The length in bytes that the path of a socket must stay below. -/
def maxSocketPath : Nat := 108

/-- Make a socket where nothing stands. -/
def bind (path : String) : Change Unit := do
  if path.contains '\x00' then throw .nulInPath
  if path.utf8ByteSize ≥ maxSocketPath then throw .socketPathTooLong
  let place ← Change.look (·.place path)
  if ((← get).at? place).isSome then throw .addressInUse
  if wantsFolder path then throw .noSuchEntry
  modify (put .socket place)

/-! ## Listing -/

mutual

/-- What stands under a path and all below it: a folder with a slash behind its path, anything else
with its text. -/
def listingAt (path : String) : FileTree → List String
  | .folder entries => (path ++ "/") :: listingOf (path ++ "/") entries
  | .file text => [path ++ "=" ++ text]
  | .unreadable | .socket | .blockDevice => [path ++ "="]

/-- The entries of a folder and all below them, under the folder's path. An entry whose name is no
text has no path. -/
def listingOf (path : String) : List (FileName × FileTree) → List String
  | [] => []
  | (.text name, t) :: rest => listingAt (path ++ name) t ++ listingOf path rest
  | (.bytes .., _) :: rest => listingOf path rest

end

/-- All that is below a folder, in rising order. -/
def listing (t : FileTree) : List String :=
  (listingOf "" t.entries).mergeSort fun a b => decide (a ≤ b)

end FileTree

end ClusterVolumes
