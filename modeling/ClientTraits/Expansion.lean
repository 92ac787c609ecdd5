import ClientTraits.Annotation.Client
import ClientTraits.Resolution.Walk
import ClientTraits.Rust.Reader
import ClientTraits.Wire.Report

/-!
# Expanding an annotated trait

The attribute `client` on a trait replaces the trait by the same trait without helper attributes,
and puts a constant beside it that holds the descriptions of its requests as JSON. The trait is
resolved by itself: interfaces that it extends are not visible, and their methods are described
where they are declared.

The name of the constant is made of the name of the trait as it is spelled. An expansion whose
constant has no legal name cannot be written down, and nothing comes of it, not even a message
(`Expansion.isWritable`).
-/

namespace ClientTraits

open Rust

/-- Why a trait cannot be expanded. -/
inductive ExpansionError
  /-- The attribute itself has arguments. -/
  | takesNoArguments
  | malformed (e : AnnotationError)
  | refused (e : Refusal)
  deriving DecidableEq, Repr

/-- The failure of one method, as it is reported at that method. -/
def MethodFailure.localMessage (f : MethodFailure) : String :=
  "`" ++ f.signature.method ++ "`: " ++ f.defect.message

/-- One message for each thing that failed: methods first. -/
def ExpansionError.messages : ExpansionError → List String
  | takesNoArguments => ["#[client] takes no arguments"]
  | malformed e => [e.message]
  | refused e =>
    e.failures.map MethodFailure.localMessage ++ e.graphErrors.map GraphError.message

/-- A word begins at a character: an upper case letter behind a lower case letter or a digit, or the
last upper case letter of several before a lower case one. -/
def beginsWord (before : Option Char) (c : Char) (behind : List Char) : Bool :=
  Text.isUppercase c &&
    match before with
    | none => false
    | some b =>
      Text.isLowercase b || ('0' ≤ b && b ≤ '9') ||
        (Text.isUppercase b && behind.head?.any Text.isLowercase)

/-- The characters of a name in upper case with `_` between its words. `before` is the character in
front of them. Only letters of ASCII change their case. -/
def upperSnakeFrom (before : Option Char) : List Char → List Char
  | [] => []
  | c :: rest =>
    if beginsWord before c rest then '_' :: c.toUpper :: upperSnakeFrom (some c) rest
    else c.toUpper :: upperSnakeFrom (some c) rest

/-- A name in upper case with `_` between its words. -/
def upperSnake (name : String) : String :=
  String.ofList (upperSnakeFrom none name.toList)

/-- The name of the constant beside a trait. -/
def constantName (trait : String) : String :=
  "__" ++ upperSnake trait ++ "_REQUEST_SPECS"

/-- What a trait is expanded to. -/
structure Expansion where
  /-- The trait without helper attributes. -/
  stripped : Trait
  constantName : String
  /-- The paths of the attributes of the constant. -/
  constantAttributes : List String
  /-- The constant is visible as the trait is; this tells whether that is a plain `pub`. -/
  isPublic : Bool
  /-- The text of the constant. -/
  text : String

/-- The constant can be written down: its name is an identifier. -/
def Expansion.isWritable (x : Expansion) : Bool :=
  isIdentifier x.constantName

/-- The declaration of an annotated trait. -/
def Interface.ofAnnotated (t : Trait) : Except ExpansionError Interface :=
  match Interface.ofTrait t with
  | .ok i => .ok { i with isClient := true }
  | .error e => .error (.malformed e)

/-- The endpoints of an interface by itself. -/
def Interface.lonelyEndpoints (i : Interface) : Except ExpansionError (List Endpoint) :=
  ((Catalog.ofList [i]).resolve i.name).value.result.mapError .refused

/-- The expansion of a trait. `arguments` are the trees inside the attribute `client` itself. -/
def expand (arguments : List Tree) (t : Trait) : Except ExpansionError Expansion := do
  if !arguments.isEmpty then throw .takesNoArguments
  let i ← Interface.ofAnnotated t
  let endpoints ← i.lonelyEndpoints
  return {
    stripped := t.stripped
    constantName := constantName i.name
    constantAttributes := ["doc", "allow"]
    isPublic := t.isPublic
    text := (Json.Value.array (endpoints.map Endpoint.toJson)).compact }

end ClientTraits
