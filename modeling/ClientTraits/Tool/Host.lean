import ClientTraits.Annotation.Arguments
import ClientTraits.Files.Path
import ClientTraits.Log.Event

/-!
# What the tool needs of its host

The tool looks for files, reads and writes them, and tells what happens. Everything it does to the
world goes through `Host`, so that a run can be carried out on a tree of files that is a value
as well as on a machine. `ToolError` lists all reasons to stop.
-/

namespace ClientTraits

/-- What is found at a path. -/
inductive Place
  | file
  /-- A folder, with the paths of all files in it, at any depth. -/
  | folder (files : List Path)
  deriving DecidableEq, Repr

/-- A world with files and a log. -/
class Host (m : Type → Type) where
  /-- What is at a path. -/
  place : Path → m (Option Place)
  /-- The text of a file; nothing if there is none to read. -/
  text : Path → m (Option String)
  /-- Make a folder with all folders above it; whether it is there now. -/
  makeFolder : Path → m Bool
  /-- Give a file a text; whether it has it now. -/
  write : Path → String → m Bool
  /-- Log an event. -/
  tell : Event → m Unit

/-- Why the tool stops. -/
inductive ToolError
  /-- A file has no text to read. -/
  | unreadable (file : Path)
  /-- A text is not in the language it should be in. -/
  | malformed (file : Path)
  /-- An annotation in a source file is not acceptable. -/
  | misannotated (file : Path) (cause : AnnotationError)
  /-- An input is not there. -/
  | missingInput (input : Path)
  /-- A folder cannot be made. -/
  | noFolder (folder : Path)
  /-- A file cannot be written. -/
  | unwritable (file : Path)
  /-- Something failed to resolve, and that matters. -/
  | unresolved (count : Nat) (report : Path)
  deriving DecidableEq, Repr

namespace ToolError

/-- The wording of an error. -/
def message : ToolError → String
  | unreadable file => "reading " ++ file.text
  | malformed file => "parsing " ++ file.text
  | misannotated file _ => "reading client metadata in " ++ file.text
  | missingInput input => "input " ++ input.text ++ " does not exist"
  | noFolder folder => "creating " ++ folder.text
  | unwritable file => "writing " ++ file.text
  | unresolved count report =>
    toString count ++ " resolution failure(s); see " ++ report.text

/-- The complaint about an error. -/
def complaint (e : ToolError) : String :=
  "Error: " ++ e.message

/-- What is behind an error. -/
def cause? : ToolError → Option String
  | misannotated _ cause => some cause.message
  | _ => none

end ToolError

/-- A part of a run: it may stop with an error. What was done until then stays done. -/
abbrev Run (m : Type → Type) := ExceptT ToolError m

namespace Run

variable {m : Type → Type} [Monad m] [Host m]

/-- Log an event. -/
def tell (e : Event) : Run m Unit :=
  ExceptT.lift (Host.tell e)

/-- Log events in their order. -/
def tellAll (events : List Event) : Run m Unit :=
  events.forM tell

/-- A result, with its events logged. -/
def logged {α : Type} (l : Logged α) : Run m α := do
  tellAll l.events
  return l.value

end Run

end ClientTraits
