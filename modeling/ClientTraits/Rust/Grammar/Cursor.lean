import ClientTraits.Rust.Item

/-!
# Parsers of token trees

A parser takes token trees from the front of a sequence, and copies what it takes. The copy is the
normal form of what was read: a rule may write its tokens in another order, or leave some of them
out. What has no normal form is copied as it stands (`verbatim`, `copySince`).

The content of a group is parsed on its own and has to be taken to its end. If it is not, that is an
error of the whole text, found when nothing else is wrong with it.

Looking ahead is a function of the trees that follow. As a character of punctuation is a tree of its
own, a token of several characters is a run of characters that are joined; a token of one character
is also found at the beginning of a longer one.
-/

namespace ClientTraits.Rust

/-- What a trailer behind a cast is. -/
inductive Trailer
  | await
  | method
  | field
  | question
  | index
  | call
  deriving DecidableEq, Repr

/-- The wording of a trailer. -/
def Trailer.text : Trailer → String
  | await => "`.await`"
  | method => "a method call"
  | field => "a field access"
  | question => "`?`"
  | index => "indexing"
  | call => "a function call"

/-- A rule that a text can break although each of its tokens has a place. -/
inductive SyntaxRule
  /-- A comparison is no operand of a comparison. -/
  | unchained
  /-- No parameters stand behind a `where`. -/
  | noGenerics
  /-- A value of `break` with a label has parentheses. -/
  | parentheses
  /-- A range without a lower bound has no attributes. -/
  | plainRange
  /-- No trailer follows a cast. -/
  | castEnd (t : Trailer)
  /-- A semicolon parts two statements. -/
  | statementEnd
  /-- A group ends where its content does. -/
  | groupEnd (d : Delimiter)
  /-- A text ends where its content does. -/
  | textEnd
  /-- The number of a field is an integer. -/
  | integerIndex
  /-- The number of a field has no suffix. -/
  | plainIndex
  /-- The number of a field fits 32 bits. -/
  | smallIndex
  /-- An open range in a sequence has parentheses. -/
  | closedRange
  /-- Nothing is captured here. -/
  | noCapture
  /-- No bound is constant here, whether by `const` or conditionally, by `[const]`. -/
  | noConst (conditional : Bool)
  /-- A bound that lifts a requirement is not quantified. -/
  | noBinder
  /-- One of the bounds behind `dyn` is a trait. -/
  | objectTrait
  /-- One of the bounds behind `impl` is a trait. -/
  | implTrait
  deriving DecidableEq, Repr

/-- The wording of a broken rule. -/
def SyntaxRule.message : SyntaxRule → String
  | unchained => "comparison operators cannot be chained"
  | noGenerics => "generic parameters on `where` clauses are reserved for future use"
  | parentheses => "parentheses required"
  | plainRange => "attributes are not allowed on range expressions starting with `..`"
  | castEnd t => "casts cannot be followed by " ++ t.text
  | statementEnd => "unexpected token, expected `;`"
  | groupEnd d => "unexpected token, expected `" ++ d.closing.toString ++ "`"
  | textEnd => "unexpected token"
  | integerIndex => "expected integer literal"
  | plainIndex => "expected unsuffixed integer"
  | smallIndex => "number too large to fit in target type"
  | closedRange => "range pattern is not allowed unparenthesized inside slice pattern"
  | noCapture => "`use<...>` precise capturing syntax is not allowed here"
  | noConst conditional =>
    (if conditional then "`[const]`" else "`const`") ++ " is not allowed here"
  | noBinder => "`for<...>` binder not allowed with `?` trait polarity modifier"
  | objectTrait => "at least one trait is required for an object type"
  | implTrait => "at least one trait must be specified"

/-- What a parser would have accepted. -/
inductive Expectation
  | expression
  | string
  /-- A token. -/
  | token (text : String)
  /-- Anything else that has a name. -/
  | construct (name : String)
  /-- One of several things, by their names. -/
  | oneOf (names : List String)
  /-- What keeps to a rule. -/
  | rule (r : SyntaxRule)
  deriving DecidableEq, Repr

/-- The wording of an expectation. -/
def Expectation.message : Expectation → String
  | expression => "expected an expression"
  | string => "expected string literal"
  | token text => "expected `" ++ text ++ "`"
  | construct name => "expected " ++ name
  | oneOf [a, b] => "expected " ++ a ++ " or " ++ b
  | oneOf names => "expected one of: " ++ ", ".intercalate names
  | rule r => r.message

/-- A place where parsing cannot go on. -/
structure SyntaxError where
  expected : Expectation
  /-- Nothing follows in the sequence. -/
  atEnd : Bool
  deriving DecidableEq, Repr

/-- The wording of a syntax error. -/
def SyntaxError.message (e : SyntaxError) : String :=
  (if e.atEnd then "unexpected end of input, " else "") ++ e.expected.message

/-- A place in a sequence of trees. -/
structure Cursor where
  rest : List Tree
  /-- The copy of what was read, in reverse. -/
  written : List Tree
  /-- The kind of the first group whose content goes on behind what was read of it. -/
  unfinished : Option Delimiter

/-- The place before a sequence of trees. -/
def Cursor.start (trees : List Tree) : Cursor :=
  ⟨trees, [], none⟩

/-- A parser. -/
abbrev Parser := StateT Cursor (Except SyntaxError)

/-- A property of the trees that follow. -/
abbrev Ahead := List Tree → Bool

/-! ## Looking ahead -/

/-- Words that are no identifiers unless they are raw. -/
def keywords : List String :=
  ["_", "abstract", "as", "async", "await", "become", "box", "break", "const", "continue", "crate",
   "do", "dyn", "else", "enum", "extern", "false", "final", "fn", "for", "if", "impl", "in", "let",
   "loop", "macro", "match", "mod", "move", "mut", "override", "priv", "pub", "ref", "return",
   "Self", "self", "static", "struct", "super", "trait", "true", "try", "type", "typeof", "unsafe",
   "unsized", "use", "virtual", "where", "while", "yield"]

namespace Ahead

/-- Nothing follows. -/
def atEnd : Ahead
  | [] => true
  | _ => false

/-- An identifier or a keyword. -/
def word : Ahead
  | .ident _ :: _ => true
  | _ => false

/-- An identifier. -/
def ident : Ahead
  | .ident name :: _ => name ∉ keywords
  | _ => false

/-- A given word. -/
def keyword (w : String) : Ahead
  | .ident name :: _ => name == w
  | _ => false

/-- One of several words. -/
def anyKeyword (ws : List String) : Ahead
  | .ident name :: _ => name ∈ ws
  | _ => false

/-- A lifetime. -/
def lifetime : Ahead
  | .lifetime _ :: _ => true
  | _ => false

/-- A group with the given delimiter. -/
def group (d : Delimiter) : Ahead
  | .group e _ :: _ => e == d
  | _ => false

/-- Any group. -/
def anyGroup : Ahead
  | .group _ _ :: _ => true
  | _ => false

/-- The characters of a token of punctuation, joined. -/
def chars : List Char → Ahead
  | [], _ => true
  | [c], .punct d _ :: _ => c == d
  | c :: cs, .punct d joint :: rest => c == d && joint && chars cs rest
  | _, _ => false

/-- A token of punctuation. -/
def punct (p : String) : Ahead :=
  chars p.toList

/-- One of several tokens of punctuation. -/
def anyPunct (ps : List String) : Ahead := fun ts =>
  ps.any fun p => punct p ts

/-- A number with a minus sign is a literal too. -/
def literal : Ahead
  | .literal _ :: _ => true
  | .ident name :: _ => name == "true" || name == "false"
  | .punct '-' _ :: .literal l :: _ =>
    match l.value with
    | .integer _ => true
    | .float => true
    | _ => false
  | _ => false

/-- A string literal. -/
def string : Ahead
  | .literal l :: _ =>
    match l.value with
    | .string _ => true
    | _ => false
  | _ => false

/-- The property of what follows the next tree. -/
def second (a : Ahead) : Ahead
  | _ :: rest => a rest
  | [] => false

/-- The property of what follows the next two trees. -/
def third (a : Ahead) : Ahead :=
  second (second a)

/-- Either property. -/
def or (a b : Ahead) : Ahead := fun ts => a ts || b ts

/-- Both properties. -/
def and (a b : Ahead) : Ahead := fun ts => a ts && b ts

/-- The first property without the second. -/
def butNot (a b : Ahead) : Ahead := fun ts => a ts && !b ts

end Ahead

namespace Parser

/-! ## Moving on -/

/-- The trees that follow. -/
def ahead : Parser (List Tree) := do
  return (← get).rest

/-- What follows has the property. -/
def peek (a : Ahead) : Parser Bool := do
  return a (← ahead)

/-- Stop with an error. -/
def fail {α : Type} (e : Expectation) : Parser α := do
  throw ⟨e, (← ahead).isEmpty⟩

/-- Stop because what was read breaks a rule. -/
def reject {α : Type} (r : SyntaxRule) : Parser α :=
  throw ⟨.rule r, false⟩

/-- Take a number of trees and copy them. -/
def advance (n : Nat) : Parser Unit :=
  modify fun c =>
    { c with rest := c.rest.drop n, written := (c.rest.take n).reverse ++ c.written }

/-- Take a token of punctuation. -/
def punct (p : String) : Parser Unit := do
  if ← peek (.punct p) then advance p.length else fail (.token p)

/-- Take a token of punctuation if it is there. -/
def optPunct (p : String) : Parser Bool := do
  if ← peek (.punct p) then
    advance p.length
    return true
  else return false

/-- Take a given word. -/
def keyword (w : String) : Parser Unit := do
  if ← peek (.keyword w) then advance 1 else fail (.token w)

/-- Take a given word if it is there. -/
def optKeyword (w : String) : Parser Bool := do
  if ← peek (.keyword w) then
    advance 1
    return true
  else return false

/-- Take an identifier. -/
def ident : Parser String := do
  match ← ahead with
  | .ident name :: _ =>
    if name ∈ keywords then
      fail (.construct ("identifier, found keyword `" ++ name ++ "`"))
    advance 1
    return name
  | _ => fail (.construct "identifier")

/-- Take an identifier or a keyword. -/
def word : Parser String := do
  match ← ahead with
  | .ident name :: _ =>
    advance 1
    return name
  | _ => fail (.construct "identifier")

/-- Take a lifetime. -/
def lifetime : Parser Unit := do
  if ← peek .lifetime then advance 1 else fail (.construct "lifetime")

/-- Take a lifetime if it is there. -/
def optLifetime : Parser Unit := do
  if ← peek .lifetime then advance 1

/-- Take a literal. A word or a negative number has no value that matters. -/
def literal : Parser Expr := do
  match ← ahead with
  | .literal l :: _ =>
    advance 1
    return .literal l
  | ts =>
    if Ahead.literal ts then
      advance (if Ahead.word ts then 1 else 2)
      return .other
    else fail (.construct "literal")

/-! ## Combining parsers -/

/-- Run a parser on all of the given trees. Neither they nor the content of a group may go on. -/
def runAll {α : Type} (p : Parser α) (trees : List Tree) : Except SyntaxError α := do
  let (a, c) ← p.run (.start trees)
  match c.unfinished, c.rest with
  | some d, _ => throw ⟨.rule (.groupEnd d), false⟩
  | none, _ :: _ => throw ⟨.rule .textEnd, false⟩
  | none, [] => return a

/-- Write trees to the copy. -/
def write (trees : List Tree) : Parser Unit :=
  modify fun c => { c with written := trees.reverse ++ c.written }

/-- The place behind a group, from the place at the end of what was read of its content. -/
def behindGroup (d : Delimiter) (rest written : List Tree) (inner : Cursor) : Cursor where
  rest := rest
  written := .group d inner.written.reverse :: written
  unfinished := inner.unfinished <|> if inner.rest.isEmpty then none else some d

/-- Take a group, with its content by a parser of its own. -/
def group {α : Type} (d : Delimiter) (content : Parser α) : Parser α := do
  match ← get with
  | ⟨.group e trees :: rest, written, unfinished⟩ =>
    if e = d then
      let (a, inner) ← content.run ⟨trees, [], unfinished⟩
      set (behindGroup d rest written inner)
      return a
    else fail (.construct d.name)
  | _ => fail (.construct d.name)

/-- Take a group of any kind with whatever it holds. -/
def anyGroup : Parser Delimiter := do
  match ← ahead with
  | .group d _ :: _ =>
    advance 1
    return d
  | _ => fail (.construct "delimiter")

/-- Run a parser and keep its copy apart. -/
def captured {α : Type} (p : Parser α) : Parser (α × List Tree) := do
  let before ← get
  set { before with written := [] }
  let a ← p
  let after ← get
  set { after with written := before.written }
  return (a, after.written.reverse)

/-- Run a parser without a copy. -/
def unwritten {α : Type} (p : Parser α) : Parser α := do
  return (← captured p).1

/-- Copy what was read since an earlier place as it stands there. -/
def copySince (start : Cursor) : Parser Unit :=
  modify fun c =>
    let taken := start.rest.take (start.rest.length - c.rest.length)
    { c with written := taken.reverse ++ start.written }

/-- Run a parser and copy what it takes as it stands. -/
def verbatim {α : Type} (p : Parser α) : Parser α := do
  let start ← get
  let a ← p
  copySince start
  return a

/-- Run a parser on what follows without taking anything. -/
def lookahead {α : Type} (p : Parser α) : Parser (Option α) := do
  match p.run (← get) with
  | .ok (a, _) => return some a
  | .error _ => return none

/-- Run a parser if it succeeds, and take nothing otherwise. -/
def attempt {α : Type} (p : Parser α) : Parser (Option α) := do
  match p.run (← get) with
  | .ok (a, c) =>
    set c
    return some a
  | .error _ => return none

/-- Run a parser until it has no more to offer, at most as often as the bound says. -/
def manyBounded {α : Type} (p : Parser (Option α)) : Nat → Parser (List α)
  | 0 => reject .textEnd
  | bound + 1 => do
    match ← p with
    | none => return []
    | some a => return a :: (← manyBounded p bound)

/-- Run a parser until it has no more to offer. Each run but the last takes a tree, so the bound
is never met. -/
def many {α : Type} (p : Parser (Option α)) : Parser (List α) := do
  manyBounded p ((← ahead).length + 1)

/-- Run a parser until a property holds. -/
def manyUntil {α : Type} (stop : Ahead) (p : Parser α) : Parser (List α) :=
  many do
    if ← peek stop then return none else return some (← p)

/-- Run a parser while a property holds. -/
def manyWhile {α : Type} (go : Ahead) (p : Parser α) : Parser (List α) :=
  many do
    if ← peek go then return some (← p) else return none

/-- Items with separators between them until a property holds. A separator may also come last. -/
def separated {α : Type} (separator : String) (stop : Ahead) (p : Parser α) : Parser (List α) :=
  manyUntil stop do
    let a ← p
    if !(← peek stop) then punct separator
    return a

/-- Items with commas between them, up to the end of the sequence. -/
def commaList {α : Type} (p : Parser α) : Parser (List α) :=
  separated "," .atEnd p

/-- Items with `+` between them. They end where no `+` follows or where the property holds. -/
def plusList {α : Type} (stop : Ahead) (p : Parser α) : Parser (List α) := do
  if ← peek stop then return []
  let first ← p
  let rest ← many do
    if ← optPunct "+" then
      if ← peek stop then return none else return some (← p)
    else return none
  return first :: rest

end Parser

end ClientTraits.Rust
