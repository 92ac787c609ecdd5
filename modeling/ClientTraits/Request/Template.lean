import ClientTraits.Request.Element

/-!
# URL templates

A template is literal text with placeholders, as in `/users/:id/posts`. A placeholder is a `:`, a
lower case letter of ASCII and then as many letters, digits and `_` of ASCII as follow. Every
other character is literal, a `:` that starts no placeholder among them.

* `Template.scan` splits a template into its tokens; `Template.write` puts tokens back together.
* `Template.compile` binds each placeholder to an argument. It asks for the placeholders from left
  to right and stops at the first that has no answer.
* `Template.render` writes the parts of a compiled template as a template again.
-/

namespace ClientTraits

namespace Template

/-- A piece of a template. -/
inductive Token
  | literal (text : List Char)
  | placeholder (name : List Char)
  deriving DecidableEq, Repr

/-- May start the name of a placeholder. -/
def isNameStart (c : Char) : Bool :=
  'a' ≤ c && c ≤ 'z'

/-- May continue the name of a placeholder. -/
def isNameRest (c : Char) : Bool :=
  c.isAlphanum || c == '_'

/-- Put a character in front of the literal that begins a token list, or start one. -/
def consLiteral (c : Char) : List Token → List Token
  | .literal text :: rest => .literal (c :: text) :: rest
  | tokens => .literal [c] :: tokens

/-- A name is no longer than the text it is taken from. -/
theorem length_dropWhile_le (p : Char → Bool) (cs : List Char) :
    (cs.dropWhile p).length ≤ cs.length := by
  induction cs with
  | nil => simp
  | cons c cs ih =>
    rw [List.dropWhile_cons]
    split
    · exact Nat.le_succ_of_le ih
    · exact Nat.le_refl _

/-- The tokens of a text. -/
def scanChars : List Char → List Token
  | [] => []
  | ':' :: c :: rest =>
    if isNameStart c then
      .placeholder (c :: rest.takeWhile isNameRest) :: scanChars (rest.dropWhile isNameRest)
    else consLiteral ':' (scanChars (c :: rest))
  | c :: rest => consLiteral c (scanChars rest)
  termination_by cs => cs.length
  decreasing_by
    · have := length_dropWhile_le isNameRest rest
      simp only [List.length_cons]
      omega
    · simp
    · simp

/-- The tokens of a template. -/
def scan (template : String) : List Token :=
  scanChars template.toList

/-- The text of one token. -/
def Token.chars : Token → List Char
  | literal text => text
  | placeholder name => ':' :: name

/-- The text of a token list. -/
def write (tokens : List Token) : List Char :=
  tokens.flatMap Token.chars

/-- The names of the placeholders in a token list. -/
def placeholders (tokens : List Token) : List String :=
  tokens.filterMap fun
    | .literal _ => none
    | .placeholder name => some (String.ofList name)

/-- A piece of a compiled template. -/
inductive Part
  | fixed (text : String)
  /-- A placeholder with its argument: `name` is what the argument was looked up by, `written` is
  what stands behind the colon. -/
  | bound (name written : String) (argument : Argument)
  deriving DecidableEq, Repr

namespace Part

/-- The part does not depend on an argument. -/
def isFixed : Part → Bool
  | fixed _ => true
  | bound .. => false

/-- The part as it stands in a template. -/
def text : Part → String
  | fixed text => text
  | bound _ written _ => ":" ++ written

/-- The part for a placeholder that is bound to an argument. -/
def ofPlaceholder (name : String) (argument : Argument) : Part :=
  bound name name argument

end Part

/-- A placeholder without an argument. -/
structure Unbound where
  name : String
  deriving DecidableEq, Repr

/-- The wording of the error. -/
def Unbound.message (e : Unbound) : String :=
  "did not find a parameter for URL placeholder `:" ++ e.name ++ "`"

/-- Bind tokens from left to right, up to the first placeholder that `resolve` does not answer.
The resolver may have effects of its own; it is asked for nothing behind that placeholder. -/
def bindTokens {m : Type → Type} [Monad m] (resolve : String → m (Option Argument)) :
    List Token → m (Except Unbound (List Part))
  | [] => pure (.ok [])
  | .literal text :: rest => do
    match ← bindTokens resolve rest with
    | .ok parts => pure (.ok (.fixed (String.ofList text) :: parts))
    | .error e => pure (.error e)
  | .placeholder name :: rest => do
    let name := String.ofList name
    match ← resolve name with
    | none => pure (.error ⟨name⟩)
    | some argument =>
      match ← bindTokens resolve rest with
      | .ok parts => pure (.ok (.ofPlaceholder name argument :: parts))
      | .error e => pure (.error e)

/-- The parts of a template under a resolver with effects. -/
def compileM {m : Type → Type} [Monad m] (resolve : String → m (Option Argument))
    (template : String) : m (Except Unbound (List Part)) :=
  bindTokens resolve (scan template)

/-- The parts of a template under a resolver. -/
def compile (resolve : String → Option Argument) (template : String) :
    Except Unbound (List Part) :=
  Id.run (compileM (fun name => pure (resolve name)) template)

/-- The template that the parts were compiled from. -/
def render (parts : List Part) : String :=
  String.join (parts.map Part.text)

end Template

end ClientTraits
