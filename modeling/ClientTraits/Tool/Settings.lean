import ClientTraits.Toml.Document
import ClientTraits.Tool.Host

/-!
# Settings of the tool

What a settings file may say: where the sources are, where the report goes, whether failures matter
and how the report is laid out. All of it has defaults, and other fields are not looked at. Paths in
the file are relative to the folder that the file is in.
-/

namespace ClientTraits

/-- The settings of a run. -/
structure Settings where
  /-- The files and folders to look for sources in. -/
  inputs : List Path
  /-- The file that the report is written to. -/
  output : Path
  /-- A failure to resolve is a failure of the run. -/
  strict : Bool
  /-- The report is laid out on many lines. -/
  pretty : Bool
  deriving DecidableEq, Repr

namespace Settings

/-- The settings of a run that nothing was said about. -/
def standard : Settings :=
  ⟨[⟨"src"⟩], ⟨"reqspec.json"⟩, true, true⟩

/-- Where the settings are unless another place is given. -/
def standardFile : Path := ⟨"reqspec.toml"⟩

/-- A field of a settings file: its default if it is missing, nothing if it is of the wrong kind. -/
def field? {α : Type} (read : Toml.Value → Option α) (default : α) (name : String)
    (fields : Toml.Fields) : Option α :=
  match fields.lookup name with
  | none => some default
  | some v => read v

/-- A path in a settings file. -/
def path? : Toml.Value → Option Path
  | .string s => some ⟨s⟩
  | _ => none

/-- A list of paths in a settings file. -/
def paths? : Toml.Value → Option (List Path)
  | .array items => items.mapM path?
  | _ => none

/-- A truth value in a settings file. -/
def bool? : Toml.Value → Option Bool
  | .bool b => some b
  | _ => none

/-- The settings that fields tell. -/
def ofFields? (fields : Toml.Fields) : Option Settings := do
  let inputs ← field? paths? standard.inputs "inputs" fields
  let output ← field? path? standard.output "output" fields
  let strict ← field? bool? standard.strict "strict" fields
  let pretty ← field? bool? standard.pretty "pretty" fields
  some ⟨inputs, output, strict, pretty⟩

/-- The settings with all paths taken relative to a base. -/
def rebase (s : Settings) (base : Path) : Settings :=
  { s with inputs := s.inputs.map base.join, output := base.join s.output }

/-- The settings that the text of a file tells. -/
def ofText (file : Path) : Option String → Except ToolError Settings
  | none => .error (.unreadable file)
  | some text =>
    match (Toml.read? text).bind ofFields? with
    | none => .error (.malformed file)
    | some s => .ok (s.rebase (file.parent?.getD ⟨""⟩))

/-- The settings in a file. If nothing is there they are the standard ones. -/
def load {m : Type → Type} [Monad m] [Host m] (file : Path) : Run m Settings := do
  match ← (Host.place file : m (Option Place)) with
  | none => return standard
  | some _ => ofText file (← (Host.text file : m (Option String)))

end Settings

end ClientTraits
