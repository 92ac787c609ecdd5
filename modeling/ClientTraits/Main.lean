import ClientTraits.Tool.Run
import Std.Time.Format

/-!
# The tool on a machine

The host that is the machine itself, and the entry point. Events are written to the standard output
as they happen, each behind the time of its writing; a complaint goes to the standard error.
-/

namespace ClientTraits.Machine

/-- Whether an action goes through. -/
def succeeds (action : IO Unit) : IO Bool := do
  try
    action
    return true
  catch _ => return false

/-- The kind of what is at a path: true for a folder, false for a file. -/
def isFolder? (p : Path) : IO (Option Bool) := do
  try
    match (← (← IO.FS.realPath p.text).metadata).type with
    | .dir => return some true
    | .file => return some false
    | _ => return none
  catch _ => return none

/-- The paths of all files in a folder, at any depth. -/
partial def filesIn (folder : Path) : IO (List Path) := do
  let entries ← (do (← IO.FS.realPath folder.text).readDir) <|>
    throw (IO.userError ("reading directory " ++ folder.text))
  let found ← entries.toList.mapM fun entry => do
    let p := folder.join ⟨entry.fileName⟩
    if (← isFolder? p) == some true then filesIn p else return [p]
  return found.flatten

/-- What is found at a path. -/
def place (p : Path) : IO (Option Place) := do
  match ← isFolder? p with
  | some true => return some (.folder (← filesIn p))
  | some false => return some .file
  | none => return none

/-- The text of a file. -/
def text (p : Path) : IO (Option String) := do
  try
    return String.fromUTF8? (← IO.FS.readBinFile p.text)
  catch _ => return none

/-- The time, to the microsecond. -/
def timestamp : IO String := do
  let now ← Std.Time.Timestamp.now
  return (Std.Time.DateTime.ofTimestamp now .UTC).format "uuuu-MM-dd'T'HH:mm:ss.SSSSSS'Z'"

/-- Write an event to the standard output, unless it is a detail. -/
def tell (e : Event) : IO Unit := do
  if e.entry.isShown then
    let indent := String.ofList (List.replicate (5 - e.entry.level.name.length) ' ')
    IO.println ((← timestamp) ++ " " ++ indent ++ e.entry.line)

instance : Host IO where
  place := place
  text := text
  makeFolder p := if p.text.isEmpty then return true else succeeds (IO.FS.createDirAll p.text)
  write p text := succeeds (IO.FS.writeFile p.text text)
  tell := tell

/-- Say how a call ended. -/
def close (ending : Ending) : IO Unit := do
  if let some answer := ending.answer? then IO.print answer
  match ending with
  | .help => return
  | .misused => IO.eprint ("error: unexpected arguments\n\n" ++ helpText)
  | .finished _ => return
  | .stopped e =>
    IO.eprintln e.complaint
    if let some cause := e.cause? then
      IO.eprint ("\nCaused by:\n    " ++ cause ++ "\n")

end ClientTraits.Machine

/-- Call the tool with the arguments of the command line. -/
def main (args : List String) : IO UInt32 := do
  try
    let ending : ClientTraits.Ending ← ClientTraits.callTool args
    ClientTraits.Machine.close ending
    return ending.exitCode.toUInt32
  catch e =>
    IO.eprintln ("Error: " ++ toString e)
    return 1
