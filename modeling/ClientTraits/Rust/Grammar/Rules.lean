import ClientTraits.Rust.Grammar.Cursor

/-!
# The knot of the grammar

Types, patterns, expressions, statements and items contain each other. Each rule is therefore
written as a function of the rules for what it contains, a value of `Rules`, and no rule calls
itself. `Rules.stuck` refuses everything; one application of all rules to it gives rules for what
has one level, and so on.
-/

namespace ClientTraits.Rust

/-- How tightly an operator binds, from the loosest on. -/
inductive Precedence
  | none
  | assign
  | range
  | or
  | and
  | compare
  | bitOr
  | bitXor
  | bitAnd
  | shift
  | sum
  | product
  | cast
  deriving DecidableEq, Repr

/-- The place of a precedence in their order. -/
def Precedence.level (p : Precedence) : Nat :=
  p.ctorIdx

/-- Where a bound stands, which decides what it may be. -/
inductive BoundPlace
  /-- Behind `dyn`, or among bounds that are a type by themselves. -/
  | object
  /-- Behind `impl`. -/
  | impl
  /-- On a parameter, an associated type or a trait. -/
  | constraint
  deriving DecidableEq

/-- Names may be captured here. -/
def BoundPlace.allowsCapture (p : BoundPlace) : Bool :=
  p = .impl

/-- Traits may be constant here. -/
def BoundPlace.allowsConst (p : BoundPlace) : Bool :=
  p ≠ .object

/-- The attributes in front of an item, and the place before them. -/
structure Front where
  start : Cursor
  attributes : List Attribute

/-- What the attributes in front of an expression belong to. -/
inductive Leading
  /-- A statement: they belong to its first operand, but to a range as a whole. -/
  | statement
  /-- The arm of a `match`: they belong to the first operand. -/
  | arm
  deriving DecidableEq

/-- Rules for what is contained in something else. -/
structure Rules where
  /-- A type, perhaps with `+` between bounds. -/
  type : Bool → Parser TypeShape
  /-- A bound in its place. -/
  bound : BoundPlace → Parser Bound
  /-- An expression, perhaps with a struct literal at its front. -/
  expression : Bool → Parser Expr
  /-- An expression at the front of a statement or an arm, behind its attributes, which are given
  by their trees. -/
  leading : Leading → List Tree → Parser Expr
  /-- An operand. -/
  operand : Bool → Parser Expr
  /-- The operators of at least the given precedence behind a left operand. -/
  operators : Bool → Precedence → Expr → Parser Expr
  /-- A pattern without alternatives. -/
  pattern : Parser Pattern
  /-- The statements of a block. -/
  statements : Parser Unit
  /-- An item behind its attributes. -/
  item : Front → Parser Item
  /-- Fields with names, in braces. -/
  fields : Parser Unit
  /-- A tree of a `use`; it may begin with `::`. The answer tells whether a tree inside of it
  does. -/
  useTree : Bool → Parser Bool

/-- Rules that accept nothing. -/
def Rules.stuck : Rules where
  type _ := Parser.fail (.construct "type")
  bound _ := Parser.fail (.construct "bound")
  expression _ := Parser.fail .expression
  leading _ _ := Parser.fail .expression
  operand _ := Parser.fail .expression
  operators _ _ _ := Parser.fail .expression
  pattern := Parser.fail (.construct "pattern")
  statements := Parser.fail (.construct "statement")
  item _ := Parser.fail (.construct "item")
  fields := Parser.fail (.token "\x7b")
  useTree _ := Parser.fail (.token "use")

end ClientTraits.Rust
