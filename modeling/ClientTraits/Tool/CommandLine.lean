import ClientTraits.Text.Split
import ClientTraits.Tool.Settings

/-!
# The command line

An option takes a value: behind `=`, in the same word as its letter, or in the next word. A value is
not empty, and the next word is a value only if it does not begin with a dash or is nothing but a
dash. Everything but an input may be given once only, and there is nothing but options and switches.
What is given replaces what the settings file says.
-/

namespace ClientTraits

/-- What the command line says. -/
structure Options where
  /-- The settings file. -/
  config : Option Path
  inputs : List Path
  output : Option Path
  /-- Failures do not matter. -/
  lenient : Bool
  /-- The report is on one line. -/
  compact : Bool
  deriving DecidableEq, Repr

/-- The options that take a value. -/
inductive Valued
  | config
  | input
  | output
  deriving DecidableEq, Repr

/-- The options that take none. -/
inductive Switch
  | lenient
  | compact
  deriving DecidableEq, Repr

/-- A word of the command line. -/
inductive Word
  /-- The call is for help. -/
  | help
  | switch (s : Switch)
  /-- An option, perhaps with its value. -/
  | valued (o : Valued) (value : Option String)
  /-- No options follow. -/
  | endOfOptions
  deriving DecidableEq, Repr

namespace Word

/-- A word that begins with two dashes, by its name and the value behind `=`. -/
def ofLong? : String → Option String → Option Word
  | "help", none => some help
  | "no-strict", none => some (switch .lenient)
  | "compact", none => some (switch .compact)
  | "config", value => some (valued .config value)
  | "input", value => some (valued .input value)
  | "output", value => some (valued .output value)
  | _, _ => none

/-- The value in the same word as the letter of an option. -/
def attached : List Char → Option String
  | [] => none
  | '=' :: value => some (String.ofList value)
  | value => some (String.ofList value)

/-- A word from its text. -/
def ofString? (s : String) : Option Word :=
  match s.toList with
  | ['-', '-'] => some endOfOptions
  | '-' :: '-' :: long =>
    match Text.splitChars '=' long with
    | some (name, value) => ofLong? (String.ofList name) (some (String.ofList value))
    | none => ofLong? (String.ofList long) none
  | '-' :: 'h' :: _ => some help
  | '-' :: 'c' :: rest => some (valued .config (attached rest))
  | '-' :: 'i' :: rest => some (valued .input (attached rest))
  | '-' :: 'o' :: rest => some (valued .output (attached rest))
  | _ => none

end Word

/-- What the command line asks for. -/
inductive Command
  | help
  | run (o : Options)
  deriving DecidableEq, Repr

namespace Options

/-- Nothing is said. -/
def unset : Options := ⟨none, [], none, false, false⟩

/-- Give an option its value. -/
def set? (o : Options) (option : Valued) (value : String) : Option Options :=
  if value.isEmpty then none
  else
    match option with
    | .config => if o.config.isSome then none else some { o with config := some ⟨value⟩ }
    | .input => some { o with inputs := o.inputs ++ [⟨value⟩] }
    | .output => if o.output.isSome then none else some { o with output := some ⟨value⟩ }

/-- Turn a switch. -/
def turn? (o : Options) : Switch → Option Options
  | .lenient => if o.lenient then none else some { o with lenient := true }
  | .compact => if o.compact then none else some { o with compact := true }

/-- The next word may be a value. -/
def mayBeValue (s : String) : Bool :=
  s == "-" || s.toList.head? != some '-'

/-- What the rest of the command line asks for; nothing if it is not understood. -/
def read? (o : Options) : List String → Option Command
  | [] => some (.run o)
  | a :: rest =>
    match Word.ofString? a with
    | none => none
    | some .help => some .help
    | some (.switch s) => (o.turn? s).bind (read? · rest)
    | some (.valued option (some value)) => (o.set? option value).bind (read? · rest)
    | some (.valued option none) =>
      match rest with
      | value :: rest =>
        if mayBeValue value then (o.set? option value).bind (read? · rest) else none
      | [] => none
    | some .endOfOptions => if rest.isEmpty then some (.run o) else none

/-- The settings file. -/
def settingsFile (o : Options) : Path :=
  o.config.getD Settings.standardFile

/-- The settings with what the command line says in place of what they say. -/
def overlay (o : Options) (s : Settings) : Settings where
  inputs := if o.inputs.isEmpty then s.inputs else o.inputs
  output := o.output.getD s.output
  strict := s.strict && !o.lenient
  pretty := s.pretty && !o.compact

end Options

/-- What there is to say on the command line. -/
def helpText : String :=
  "Resolve #[client] traits into request specs\n\n" ++
  "Usage: reqspec [OPTIONS]\n\n" ++
  "Options:\n" ++
  "  -c, --config <CONFIG>  Path to the config file [default: " ++
    Settings.standardFile.text ++ "]\n" ++
  "  -i, --input <INPUTS>   Source file or directory to scan " ++
    "(repeatable, replaces configured inputs)\n" ++
  "  -o, --output <OUTPUT>  Output file for the JSON report\n" ++
  "      --no-strict        Report failures without failing the process\n" ++
  "      --compact          Write compact JSON\n" ++
  "  -h, --help             Print help\n"

/-- What a command line asks for; nothing if it is not understood. -/
def Command.ofArguments? (args : List String) : Option Command :=
  Options.unset.read? args

end ClientTraits
