import ClientTraits.Annotation.Client
import ClientTraits.Declaration.Catalog
import ClientTraits.Rust.Reader
import ClientTraits.Tool.Host

/-!
# Source files

Inputs are files, which are taken whatever they are called, and folders, which are searched for
source files at any depth. The files are read in the order of their paths, and of several
declarations of a name the last one counts; so the outcome does not depend on the order of the
inputs.
-/

namespace ClientTraits

/-- The extension of source files. -/
def sourceExtension : String := "rs"

/-- The source files that an input stands for, if it is there. -/
def Place.sources (input : Path) : Place → List Path
  | file => [input]
  | folder files => files.filter fun p => p.hasExtension sourceExtension

/-- The declarations in the text of a source file. -/
def Interface.ofText (file : Path) : Option String → Except ToolError (List Interface)
  | none => .error (.unreadable file)
  | some text =>
    match Rust.readSource? text with
    | none => .error (.malformed file)
    | some items => (ofItems items).mapError (.misannotated file)

/-- Add a declaration from a file. -/
def Catalog.declare (file : Path) (c : Catalog) (i : Interface) : Logged Catalog := do
  let (old, c) := c.exchange i
  if old.isSome then
    Logged.emit (.redeclared file.text i.name)
  pure c

/-- Add the declarations of a file. -/
def Catalog.declareAll (file : Path) (c : Catalog) (interfaces : List Interface) :
    Logged Catalog := do
  Logged.emit (.fileRead file.text interfaces.length)
  interfaces.foldlM (declare file) c

namespace Run

variable {m : Type → Type} [Monad m] [Host m]

/-- The source files that an input stands for. -/
def sourcesAt (input : Path) : Run m (List Path) := do
  match ← (Host.place input : m (Option Place)) with
  | some place => return place.sources input
  | none => throw (.missingInput input)

/-- The source files that all inputs stand for, each once, in the order of their paths. -/
def sourceFiles (inputs : List Path) : Run m (List Path) := do
  let found ← inputs.mapM sourcesAt
  return Path.sortedUnique found.flatten

/-- Add the declarations of a file that is still to be read. -/
def loadFile (c : Catalog) (file : Path) : Run m Catalog := do
  let interfaces ← Interface.ofText file (← (Host.text file : m (Option String)))
  logged (c.declareAll file interfaces)

/-- The declarations of all files. -/
def loadFiles (files : List Path) : Run m Catalog :=
  files.foldlM loadFile .empty

end Run

end ClientTraits
