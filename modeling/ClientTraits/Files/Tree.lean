import ClientTraits.Files.Path

/-!
# Trees of files

Files and folders at any depth (`FileTree`), and all of them that there are, with the place of the
working folder among them (`Disk`). The functions look up paths, list files, and write files and
folders. A path is followed from the top if it is absolute, and else from the working folder. It
leads only through folders, and behind its last slash it asks for a folder. Two points lead to the
folder above; above the top is the top itself.
-/

namespace ClientTraits

/-- A file or a folder. -/
inductive FileTree
  /-- A file with its text, or with bytes that are no text. -/
  | file (text : Option String)
  /-- A folder. No two of its entries have the same name. -/
  | folder (entries : List (String × FileTree))
  deriving Repr

namespace FileTree

/-! ## Looking up -/

/-- Follow segments from a place inside the tree. The trail holds the folders above, innermost
first, each with the name that was entered in it. The answer tells the names that lead from the top
to the end of the way, and what is there. -/
def follow (trail : List (String × FileTree)) (here : FileTree) :
    List String → Option (List String × FileTree)
  | [] => some ((trail.map Prod.fst).reverse, here)
  | segment :: rest =>
    match here with
    | file _ => none
    | folder entries =>
      if segment = "" || segment = "." then follow trail here rest
      else if segment = ".." then
        match trail with
        | [] => follow [] here rest
        | (_, above) :: trail => follow trail above rest
      else
        match entries.lookup segment with
        | none => none
        | some next => follow ((segment, here) :: trail) next rest

mutual

/-- All files of a tree, with their paths below `at`. -/
def files (place : Path) : FileTree → List (Path × Option String)
  | file text => [(place, text)]
  | folder entries => filesOfEntries place entries

/-- All files of the entries of a folder, with their paths below the path of the folder. -/
def filesOfEntries (place : Path) : List (String × FileTree) → List (Path × Option String)
  | [] => []
  | (name, t) :: rest => files (place.join ⟨name⟩) t ++ filesOfEntries place rest

end

/-! ## Writing -/

/-- The entries with `t` under a name: in the place of the entry of that name, or at the end. -/
def setEntry (name : String) (t : FileTree) : List (String × FileTree) → List (String × FileTree)
  | [] => [(name, t)]
  | (n, old) :: rest => if n = name then (n, t) :: rest else (n, old) :: setEntry name t rest

/-- The tree with `item` at the end of the names; nothing if they do not lead through folders. -/
def put? (tree : FileTree) (names : List String) (item : FileTree) : Option FileTree :=
  match names, tree with
  | [], _ => some item
  | _ :: _, file _ => none
  | [name], folder entries => some (folder (setEntry name item entries))
  | name :: next :: rest, folder entries => do
    let inner ← (← entries.lookup name).put? (next :: rest) item
    some (folder (setEntry name inner entries))

/-- Make the folders that segments lead through, as far as they are missing, from a folder with the
given names. The answer tells also whether the way could be made to its end. -/
def makeFolders (t : FileTree) (names : List String) : List String → FileTree × Bool
  | [] => (t, true)
  | segment :: rest =>
    if segment = "" || segment = "." then makeFolders t names rest
    else if segment = ".." then makeFolders t names.dropLast rest
    else
      match t.follow [] (names ++ [segment]) with
      | some (_, folder _) => makeFolders t (names ++ [segment]) rest
      | some (_, file _) => (t, false)
      | none =>
        match t.put? (names ++ [segment]) (folder []) with
        | some t => makeFolders t (names ++ [segment]) rest
        | none => (t, false)

end FileTree

/-! ## The working folder -/

/-- A segment that names an entry. -/
def IsEntryName (segment : String) : Prop :=
  segment ≠ "" ∧ segment ≠ "." ∧ segment ≠ ".."

instance : DecidablePred IsEntryName :=
  fun _ => inferInstanceAs (Decidable (_ ∧ _ ∧ _))

/-- All files and folders that there are, and the working folder. -/
structure Disk where
  top : FileTree
  /-- The names that lead from the top to the working folder. -/
  home : List String
  isEntryName_home : ∀ name ∈ home, IsEntryName name

namespace Disk

/-- The names that lead from the top to where a path begins. -/
def start (d : Disk) (p : Path) : List String :=
  if p.isAbsolute then [] else d.home

/-- What is at a path. -/
def find? (d : Disk) (p : Path) : Option FileTree :=
  if p.text.isEmpty then none else (d.top.follow [] (d.start p ++ p.segments)).map Prod.snd

/-- Give a file a text. The folder has to be there, and no folder may stand where the file goes. -/
def write? (d : Disk) (p : Path) (text : String) : Option Disk :=
  match p.segments.reverse with
  | last :: above =>
    match Component.ofSegment? last, d.top.follow [] (d.start p ++ above.reverse) with
    | some (.name name), some (names, .folder entries) =>
      match entries.lookup name with
      | some (.folder _) => none
      | _ => (d.top.put? (names ++ [name]) (.file (some text))).map fun top => { d with top := top }
    | _, _ => none
  | [] => none

/-- Make a folder with all folders above it. The empty path is the working folder. -/
def makeFolder (d : Disk) (p : Path) : Disk × Bool :=
  let (top, made) := d.top.makeFolders (d.start p) p.segments
  ({ d with top := top }, made)

end Disk

end ClientTraits
