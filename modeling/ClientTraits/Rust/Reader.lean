import ClientTraits.Rust.Grammar.Item
import ClientTraits.Rust.Lexer

/-!
# Reading Rust

The rules of the grammar, applied to themselves as often as the text can be nested, and the readers
of whole texts: a file, a trait, a type, an attribute.
-/

namespace ClientTraits.Rust

namespace Rules

/-- The rules for what contains what `g` has rules for. -/
def enclose (g : Rules) : Rules where
  type := g.typeRule
  bound := g.boundRule
  expression := g.expressionRule
  leading := g.leadingRule
  operand := g.operandRule
  operators := g.operatorsRule
  pattern := g.patternRule
  statements := g.statementsRule
  item := g.itemRule
  fields := g.namedFields
  useTree := g.useTreeRule

/-- The rules for what is nested at most as deep as the number says. -/
def ofDepth (depth : Nat) : Rules :=
  Nat.repeat enclose depth stuck

/-- Rules for all that some trees can hold. Whatever is nested in something else has a tree less
than that. -/
def forTrees (trees : List Tree) : Rules :=
  ofDepth (2 * Tree.listNodes trees + 8)

end Rules

/-- Read all of the trees by a rule. -/
def readTrees {α : Type} (rule : Rules → Parser α) (trees : List Tree) : Except SyntaxError α :=
  Parser.runAll (rule (.forTrees trees)) trees

/-- Read all of a text by a rule; nothing if it is not in the language. -/
def readText? {α : Type} (rule : Rules → Parser α) (text : String) : Option α := do
  let trees ← trees? text.toList
  (readTrees rule trees).toOption

/-- The items of a file behind its attributes. -/
def fileItems (g : Rules) : Parser (List Item) := do
  let _ ← g.innerAttributes
  Parser.manyUntil .atEnd do
    let start ← get
    g.item ⟨start, ← g.outerAttributes⟩

/-- A trait by itself; an alias is none. -/
def lonelyTrait (g : Rules) : Parser Item := do
  let attributes ← g.outerAttributes
  let v ← Rules.visibility
  let _ ← Parser.optKeyword "unsafe"
  let _ ← Parser.optKeyword "auto"
  Parser.keyword "trait"
  g.traitTail attributes v false

/-- The items of a source file. -/
def readSource? (text : String) : Option (List Item) := do
  let trees ← fileTrees? text
  (readTrees fileItems trees).toOption

/-- A text that is one trait. -/
def readTrait? (text : String) : Option Trait :=
  match readText? lonelyTrait text with
  | some (.definition t) => some t
  | _ => none

/-- A text that is one type. -/
def readType? (text : String) : Option RustType :=
  readText? Rules.wholeType text

/-- A text that is one attribute. -/
def readAttribute? (text : String) : Option Attribute :=
  readText? Rules.outerAttribute text

/-- The text is one identifier. A keyword is none unless it is raw. -/
def isIdentifier (text : String) : Bool :=
  text ∉ keywords && (identifier? text.toList).any fun s => s.rest.isEmpty

end ClientTraits.Rust
