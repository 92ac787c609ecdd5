import ClientTraits.Request.Element
import ClientTraits.Rust.Reader

/-!
# Arguments of helper attributes

A helper attribute has string literals by position and values by name, in any mix, with commas
between them. A slot of the attribute is filled by its name or else by its position;
`Arguments.string?` looks it up, and `Arguments.integer?` looks up a number, which has a name only.
-/

namespace ClientTraits

open Rust

/-- Why an annotation is not acceptable. -/
inductive AnnotationError
  /-- The arguments are no list of strings and named values. -/
  | arguments (e : SyntaxError)
  /-- The attribute has an `=` where its arguments should be. -/
  | notParenthesized
  /-- An argument has a name that the attribute does not know. -/
  | unknownArgument (name : String) (known : List String)
  /-- The value of a named argument is no string. -/
  | notString (name : String)
  /-- An argument is missing. -/
  | usage (form : String)
  /-- The value of a named argument is no integer. -/
  | notInteger
  /-- An integer is beyond the largest one. -/
  | tooLarge
  /-- A route has an empty verb. -/
  | emptyVerb
  /-- A header or query line has no delimiter. -/
  | line (e : LineError)
  /-- A parameter of a method is more than an identifier. -/
  | notIdentifier
  deriving DecidableEq, Repr

/-- The wording of an error. -/
def AnnotationError.message : AnnotationError → String
  | arguments e => e.message
  | notParenthesized => "expected parenthesized arguments, e.g. #[name(\"...\")]"
  | unknownArgument name known =>
    "unknown argument `" ++ name ++ "`, expected one of: " ++ ", ".intercalate known
  | notString name => "`" ++ name ++ "` must be a string literal"
  | usage form => "expected " ++ form
  | notInteger => "expected an integer literal"
  | tooLarge => "number too large to fit in target type"
  | emptyVerb => "HTTP method must not be empty"
  | line e => e.message
  | notIdentifier => "client method parameters must be plain identifiers"

/-- The arguments of an attribute. -/
structure Arguments where
  positional : List String
  named : List (String × Expr)
  deriving DecidableEq, Repr

namespace Arguments

/-- No arguments. -/
def none : Arguments := ⟨[], []⟩

/-- An argument as it is written. -/
inductive Written
  | positional (s : String)
  | named (name : String) (value : Expr)
  deriving DecidableEq, Repr

/-- The arguments that are written in this order. -/
def ofWritten (items : List Written) : Arguments where
  positional := items.filterMap fun
    | .positional s => some s
    | .named _ _ => Option.none
  named := items.filterMap fun
    | .positional _ => Option.none
    | .named name value => some (name, value)

/-- One argument. -/
def writtenRule (g : Rules) : Parser Written := do
  let ts ← Parser.ahead
  if (Ahead.and .ident (.second (.punct "="))) ts then
    let name ← Parser.ident
    Parser.punct "="
    return .named name (← g.expressionRule true)
  else
    match ts with
    | .literal l :: _ =>
      match l.value with
      | .string s =>
        Parser.advance 1
        return .positional s
      | _ => Parser.fail .string
    | _ => Parser.fail .string

/-- Arguments with commas between them and perhaps at the end. -/
def rule (g : Rules) : Parser Arguments := do
  return ofWritten (← Parser.commaList (writtenRule g))

/-- The arguments that token trees are. -/
def ofTrees (trees : List Tree) : Except AnnotationError Arguments :=
  match readTrees rule trees with
  | .ok arguments => .ok arguments
  | .error e => .error (.arguments e)

/-- The arguments of an attribute. One without any input has none. -/
def ofAttribute (a : Attribute) : Except AnnotationError Arguments :=
  match a.input with
  | .nothing => .ok none
  | .tokens trees => ofTrees trees
  | .value => .error .notParenthesized

/-- Refuse names that are not known. -/
def expectNames (arguments : Arguments) (known : List String) : Except AnnotationError Unit :=
  match arguments.named.find? fun (name, _) => name ∉ known with
  | some (name, _) => .error (.unknownArgument name known)
  | Option.none => .ok ()

theorem expectNames_eq_ok_iff {arguments : Arguments} {known : List String} :
    arguments.expectNames known = .ok () ↔ ∀ pair ∈ arguments.named, pair.1 ∈ known := by
  rw [expectNames]
  split
  · next name value h =>
      have hno : name ∉ known := by simpa using List.find?_some h
      exact iff_of_false (fun h => nomatch h) fun hall => hno (hall _ (List.mem_of_find?_eq_some h))
  · next h => simpa using h

/-- The first value under a name. -/
def value? (arguments : Arguments) (name : String) : Option Expr :=
  (arguments.named.find? fun (n, _) => n == name).map (·.2)

/-- The string under a name, or else the one at a position. -/
def string? (arguments : Arguments) (position : Nat) (name : String) :
    Except AnnotationError (Option String) :=
  match arguments.value? name with
  | some (.literal ⟨_, .string s⟩) => .ok (some s)
  | some _ => .error (.notString name)
  | Option.none => .ok arguments.positional[position]?

/-- The string of a slot that has to be filled; `form` shows how to write the attribute. -/
def string (arguments : Arguments) (position : Nat) (name form : String) :
    Except AnnotationError String := do
  match ← arguments.string? position name with
  | some s => return s
  | Option.none => throw (.usage form)

/-- The largest integer that an argument may hold before its sign counts. -/
def maxInteger : Nat := 0x7FFFFFFFFFFFFFFF

/-- The integer that an expression denotes: a literal, perhaps negated or in parentheses. -/
def integerValue : Expr → Except AnnotationError Int
  | .literal ⟨_, .integer n⟩ => if n ≤ maxInteger then .ok n else .error .tooLarge
  | .negated e => (integerValue e).map fun n => -n
  | .grouped e => integerValue e
  | _ => .error .notInteger

/-- The integer under a name. -/
def integer? (arguments : Arguments) (name : String) : Except AnnotationError (Option Int) :=
  match arguments.value? name with
  | some e => (integerValue e).map some
  | Option.none => .ok Option.none

end Arguments

end ClientTraits
