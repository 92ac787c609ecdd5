import ClientTraits.Files.Tree
import ClientTraits.Tool.Host

/-!
# A world as a value

The host that is nothing but files, a working folder and a log. In it a run is a function of the
files.
-/

namespace ClientTraits

/-- Files with a working folder, and what was logged. -/
structure World where
  disk : Disk
  log : List Event

namespace World

/-- A world in which nothing was logged, with nothing but the working folder at the top. -/
def ofFolder (folder : FileTree) : World where
  disk := ⟨.folder [("work", folder)], ["work"], by decide⟩
  log := []

/-- What is found at a path. -/
def place (w : World) (p : Path) : Option Place :=
  match w.disk.find? p with
  | some (.file _) => some .file
  | some (.folder entries) => some (.folder ((FileTree.filesOfEntries p entries).map Prod.fst))
  | none => none

/-- The text of a file. -/
def text (w : World) (p : Path) : Option String :=
  match w.disk.find? p with
  | some (.file text) => text
  | _ => none

/-- The world after an attempt to make a folder, and whether the folder is there. -/
def makeFolder (w : World) (p : Path) : Bool × World :=
  let (disk, made) := w.disk.makeFolder p
  (made, { w with disk := disk })

/-- The world after an attempt to write a file, and whether the file has the text. -/
def write (w : World) (p : Path) (text : String) : Bool × World :=
  match w.disk.write? p text with
  | some disk => (true, { w with disk := disk })
  | none => (false, w)

instance : Host (StateM World) where
  place p := do return (← get).place p
  text p := do return (← get).text p
  makeFolder p := modifyGet fun w => w.makeFolder p
  write p text := modifyGet fun w => w.write p text
  tell e := modify fun w => { w with log := w.log ++ [e] }

end World

end ClientTraits
