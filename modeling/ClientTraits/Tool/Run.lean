import ClientTraits.Resolution.Walk
import ClientTraits.Tool.CommandLine
import ClientTraits.Tool.Sources
import ClientTraits.Wire.Report

/-!
# A run of the tool

A run finds the source files, reads all declarations, resolves every client, and writes one
report for all of them. Nothing is written before everything was read, and the report is the same
whether or not failures matter: that only decides how the run ends.
-/

namespace ClientTraits

/-- The number of failures in a report. -/
def Report.failureCount (r : Report) : Nat :=
  r.failures.length + r.graphErrors.length

/-- What a report has to say in the log. -/
def Report.events (r : Report) : List Event :=
  r.failures.map (fun f => .failed r.root f.message) ++
    r.graphErrors.map (fun e => .failed r.root e.message) ++
    r.duplicates.map (.reachedAgain r.root)

/-- The counts of a run. -/
structure Summary where
  clients : Nat
  endpoints : Nat
  failures : Nat
  deriving DecidableEq, Repr

/-- The counts of the reports of a run. -/
def Summary.ofReports : List Report → Summary
  | [] => ⟨0, 0, 0⟩
  | r :: rest =>
    let s := ofReports rest
    ⟨s.clients + 1, r.endpoints.length + s.endpoints, r.failureCount + s.failures⟩

namespace Run

variable {m : Type → Type} [Monad m] [Host m]

/-- Stop with an error unless an attempt succeeded. -/
def require (attempt : m Bool) (e : ToolError) : Run m Unit := do
  if !(← (attempt : m Bool)) then throw e

/-- Write a text to a file, in a folder that may have to be made. -/
def writeOutput (file : Path) (text : String) : Run m Unit := do
  match file.parent? with
  | some folder => require (Host.makeFolder folder) (.noFolder folder)
  | none => pure ()
  require (Host.write file text) (.unwritable file)

/-- The reports for all clients that the inputs declare. -/
def reports (inputs : List Path) : Run m (List Report) := do
  let files ← sourceFiles inputs
  tell (.filesFound files.length)
  let catalog ← loadFiles files
  let reports ← logged catalog.resolveAll
  tellAll (reports.flatMap Report.events)
  return reports

/-- A run with given settings. -/
def withSettings (s : Settings) : Run m Summary := do
  let reports ← reports s.inputs
  let summary := Summary.ofReports reports
  writeOutput s.output (renderReports reports s.pretty)
  tell (.written summary.endpoints summary.clients s.output.text)
  if s.strict && summary.failures > 0 then
    throw (.unresolved summary.failures s.output)
  return summary

/-- A run with the options of a command line. -/
def withOptions (o : Options) : Run m Summary := do
  let settings ← Settings.load o.settingsFile
  withSettings (o.overlay settings)

end Run

/-- How a call of the tool ends. -/
inductive Ending
  | help
  /-- The command line is not understood. -/
  | misused
  | finished (summary : Summary)
  | stopped (e : ToolError)
  deriving DecidableEq, Repr

/-- The exit code. -/
def Ending.exitCode : Ending → Nat
  | help => 0
  | misused => 2
  | finished _ => 0
  | stopped _ => 1

/-- The complaint with which a call ends. -/
def Ending.complaint? : Ending → Option String
  | stopped e => some e.complaint
  | _ => none

/-- What a call has to say at its end besides complaints. -/
def Ending.answer? : Ending → Option String
  | help => some helpText
  | _ => none

/-- Call the tool with the arguments of a command line. -/
def callTool {m : Type → Type} [Monad m] [Host m] (args : List String) : m Ending := do
  match Command.ofArguments? args with
  | none => return .misused
  | some .help => return .help
  | some (.run o) =>
    match ← (Run.withOptions o).run with
    | .ok summary => return .finished summary
    | .error e => return .stopped e

end ClientTraits
