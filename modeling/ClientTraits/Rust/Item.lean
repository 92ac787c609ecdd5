import ClientTraits.Rust.Token

/-!
# Items of Rust

What this library keeps of a source file: traits with their attributes, bounds and methods, inside
modules at any depth. All else that a file may hold is read but not kept (`Item.other`,
`Member.other`). Types keep their tokens, and as much of their structure as tells whether they are
futures. Expressions keep as much as tells whether they are literals.
-/

namespace ClientTraits.Rust

/-- What follows the path of an attribute. -/
inductive AttributeInput
  | nothing
  /-- Token trees between delimiters. -/
  | tokens (trees : List Tree)
  /-- An `=` and a value. -/
  | value
  deriving Repr

/-- An attribute. -/
structure Attribute where
  /-- The path begins with `::`. -/
  absolute : Bool
  path : List String
  input : AttributeInput
  deriving Repr

/-- The attribute's path is this one name. -/
def Attribute.hasName (a : Attribute) (name : String) : Bool :=
  !a.absolute && a.path == [name]

/-- The name of an attribute whose path is a single one. -/
def Attribute.name? (a : Attribute) : Option String :=
  match a.absolute, a.path with
  | false, [name] => some name
  | _, _ => none

theorem Attribute.name?_eq_some_iff {a : Attribute} {name : String} :
    a.name? = some name ↔ a.hasName name = true := by
  obtain ⟨absolute, path, input⟩ := a
  cases absolute with
  | true => simp [name?, hasName]
  | false =>
      cases path with
      | nil => simp [name?, hasName]
      | cons first rest => cases rest <;> simp [name?, hasName]

theorem Attribute.hasName_eq_of_name? {a : Attribute} {name : String} (h : a.name? = some name)
    (other : String) : a.hasName other = (name == other) := by
  rw [Bool.eq_iff_iff, ← name?_eq_some_iff, h, Option.some_inj, beq_iff_eq]

/-- The path of an attribute as text. -/
def Attribute.shownPath (a : Attribute) : String :=
  (if a.absolute then "::" else "") ++ "::".intercalate a.path

/-- What is kept of an expression. -/
inductive Expr
  | literal (l : Literal)
  | negated (e : Expr)
  | grouped (e : Expr)
  | range
  | comparison
  /-- Ends in a block, so that as a statement it needs no semicolon. -/
  | block
  /-- A call of a macro, in braces or in other delimiters. -/
  | invocation (braced : Bool)
  /-- Has no normal form. -/
  | verbatim
  | other
  deriving DecidableEq, Repr

/-- A bound of a type parameter or a trait. -/
inductive Bound
  /-- A trait, by the last segment of its path. -/
  | named (last : String)
  | lifetime
  /-- The names that a type captures. -/
  | capture
  /-- A trait that is constant. It has no normal form. -/
  | other
  deriving DecidableEq, Repr

/-- The name in a bound by a trait. -/
def Bound.name? : Bound → Option String
  | named last => some last
  | _ => none

/-- What is kept of the structure of a type. -/
inductive TypeShape
  /-- `impl` or `dyn` with bounds. -/
  | bounded (bounds : List Bound)
  | grouped (t : TypeShape)
  /-- A path: its last segment, whether that segment is all of it, and the types among the arguments
  of that segment in angle brackets. -/
  | path (last : String) (alone : Bool) (arguments : List TypeShape)
  | other
  deriving Repr

/-- A type. -/
structure RustType where
  shape : TypeShape
  tokens : List Tree
  deriving Repr

/-- A pattern of a parameter. -/
inductive Pattern
  /-- A plain identifier, perhaps by reference, mutable, or with a pattern behind `@`. -/
  | name (ident : String)
  /-- A range, perhaps open at one of its ends. -/
  | range (isOpen : Bool)
  /-- The rest of a sequence, `..`. -/
  | rest
  /-- Has no normal form. -/
  | verbatim
  | other
  deriving DecidableEq, Repr

/-- An input of a method. -/
inductive Input
  | receiver (attributes : List Attribute)
  | typed (attributes : List Attribute) (pattern : Pattern) (type : RustType)
  deriving Repr

/-- The attributes of an input. -/
def Input.attributes : Input → List Attribute
  | receiver attributes => attributes
  | typed attributes _ _ => attributes

/-- A method of a trait. -/
structure Function where
  attributes : List Attribute
  name : String
  /-- Written as `async fn`. -/
  isAsync : Bool
  inputs : List Input
  output : Option RustType
  deriving Repr

/-- A member of a trait. -/
inductive Member
  | method (f : Function)
  | other (attributes : List Attribute)
  deriving Repr

/-- A trait. -/
structure Trait where
  attributes : List Attribute
  /-- Visible by a plain `pub`. -/
  isPublic : Bool
  name : String
  bounds : List Bound
  members : List Member
  deriving Repr

/-- An item of a file or a module. -/
inductive Item
  | definition (t : Trait)
  /-- A module with its items in place. -/
  | module (items : List Item)
  | other
  deriving Repr

end ClientTraits.Rust
