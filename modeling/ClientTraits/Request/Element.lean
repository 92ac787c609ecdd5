import ClientTraits.Text.Blank
import ClientTraits.Text.Split

/-!
# The parts of a request

Headers, query items, context attributes and the payload. A part whose value is only known when
the method is called refers to the parameter that will hold it, by position and name, so that
nobody has to look the parameter up again.
-/

namespace ClientTraits

/-- A reference to a parameter of a method. Positions do not count the receiver. -/
structure Argument where
  index : Nat
  name : String
  deriving DecidableEq, Repr

/-- Why the one-line form of a header or a query item cannot be read. -/
inductive LineError
  /-- A header line without `:`. -/
  | missingColon (line : String)
  /-- A query line without `=`. -/
  | missingEquals (line : String)
  deriving DecidableEq, Repr

/-- The wording of the error. -/
def LineError.message : LineError → String
  | missingColon line => "header `" ++ line ++ "` must be written as `Name: Value`"
  | missingEquals line => "query `" ++ line ++ "` must be written as `name=value`"

/-- A request header with a fixed value. -/
structure Header where
  name : String
  value : String
  deriving DecidableEq, Repr

namespace Header

/-- The name of the header that a payload's content type goes into. -/
def contentTypeName : String := "Content-Type"

/-- The header for a content type. -/
def contentType (value : String) : Header :=
  ⟨contentTypeName, value⟩

/-- Read `Name: Value`. The first `:` divides, and both sides lose the blanks around them. -/
def ofLine (line : String) : Except LineError Header :=
  match Text.splitFirst ':' line with
  | some (name, value) => .ok ⟨Text.trim name, Text.trim value⟩
  | none => .error (.missingColon line)

/-- The one-line form of a header. -/
def line (h : Header) : String :=
  h.name ++ ": " ++ h.value

end Header

/-- An item of the query string. Items of one name are legal, and all are sent. -/
inductive QueryItem
  /-- A fixed value. -/
  | fixed (name value : String)
  /-- The value of an argument. -/
  | bound (name : String) (argument : Argument)
  deriving DecidableEq, Repr

namespace QueryItem

/-- The name of an item. -/
def name : QueryItem → String
  | fixed name _ => name
  | bound name _ => name

/-- Read `name=value`. The first `=` divides, and both sides lose the blanks around them. -/
def ofLine (line : String) : Except LineError QueryItem :=
  match Text.splitFirst '=' line with
  | some (name, value) => .ok (.fixed (Text.trim name) (Text.trim value))
  | none => .error (.missingEquals line)

end QueryItem

/-- A named value of the request's context, neither in the URL nor in the payload. -/
structure ContextAttribute where
  name : String
  argument : Argument
  deriving DecidableEq, Repr

/-- The argument sent as the body of a request. -/
structure Payload where
  argument : Argument
  contentType : Option String
  deriving DecidableEq, Repr

namespace Payload

/-- The payload of an argument that was marked with a content type; an empty one does not count. -/
def marked (argument : Argument) (contentType : Option String) : Payload :=
  ⟨argument, contentType.filter fun t => !t.isEmpty⟩

/-- The header that the payload brings along. -/
def header? (p : Payload) : Option Header :=
  p.contentType.map Header.contentType

end Payload

end ClientTraits
