import ClientTraits.Fragment.Distinct
import ClientTraits.Request.Template
import ClientTraits.Request.Timeouts
import ClientTraits.Request.Verb

/-!
# Partial request settings

Settings come in two scopes. An interface carries headers and timeouts for all its methods
(`Shared`); a method carries everything that describes one request (`Call`). A `Fragment` is
either of them, or nothing.

`left.merge right` combines two fragments:

* the URL, the verb and the payload are those of the method scope, of the right operand if both
  have them;
* of the timeouts, each time is the right one if it is set;
* headers and context attributes are those of the left and then of the right operand, and the
  first of each name counts;
* query items are those of the left and then of the right operand, and all count.

The content type of a payload is a header in front of all others, so that it beats every declared
header of that name, whatever its scope.
-/

namespace ClientTraits

/-- Settings of an interface. -/
structure Shared where
  headers : List Header
  timeouts : Timeouts
  deriving DecidableEq, Repr

/-- Settings of one method. -/
structure Call where
  url : List Template.Part
  verb : Verb
  payload : Option Payload
  headers : List Header
  query : List QueryItem
  attributes : List ContextAttribute
  timeouts : Timeouts
  deriving DecidableEq, Repr

/-- The content type of the payload, then `left`, then `right`: the first of each name. -/
def joinHeaders (payload : Option Payload) (left right : List Header) : List Header :=
  distinctBy Header.name ((payload.bind Payload.header?).toList ++ left ++ right)

/-- The first attribute of each name. -/
def distinctAttributes (attributes : List ContextAttribute) : List ContextAttribute :=
  distinctBy ContextAttribute.name attributes

namespace Call

/-- The headers that are sent. -/
def effectiveHeaders (c : Call) : List Header :=
  joinHeaders c.payload [] c.headers

/-- The attributes that take effect. -/
def effectiveAttributes (c : Call) : List ContextAttribute :=
  distinctAttributes c.attributes

end Call

/-- Settings of some scope. -/
inductive Fragment
  /-- No settings. It is neutral in a merge, except that a method's settings come back with their
  effective headers and attributes. -/
  | empty
  | shared (s : Shared)
  | call (c : Call)
  deriving DecidableEq, Repr

namespace Fragment

/-- The headers of a fragment. -/
def headers : Fragment → List Header
  | empty => []
  | shared s => s.headers
  | call c => c.headers

/-- The timeouts of a fragment. -/
def timeouts : Fragment → Timeouts
  | empty => .unset
  | shared s => s.timeouts
  | call c => c.timeouts

/-- The query items of a fragment. -/
def query : Fragment → List QueryItem
  | call c => c.query
  | _ => []

/-- The context attributes of a fragment. -/
def attributes : Fragment → List ContextAttribute
  | call c => c.attributes
  | _ => []

/-- The fragment describes a request. -/
def isCall : Fragment → Bool
  | call _ => true
  | _ => false

/-- The settings of a method under those of `left`. -/
def apply (left : Fragment) (c : Call) : Call where
  url := c.url
  verb := c.verb
  payload := c.payload
  headers := joinHeaders c.payload left.headers c.headers
  query := left.query ++ c.query
  attributes := distinctAttributes (left.attributes ++ c.attributes)
  timeouts := left.timeouts.merge c.timeouts

/-- The settings of both operands. -/
def merge : Fragment → Fragment → Fragment
  | empty, call c | call c, empty => call (empty.apply c)
  | empty, right => right
  | left, empty => left
  | left, call c => call (left.apply c)
  | shared l, shared r =>
    shared ⟨joinHeaders none l.headers r.headers, l.timeouts.merge r.timeouts⟩
  | call l, shared r =>
    call { l with
      headers := joinHeaders l.payload l.headers r.headers
      attributes := l.effectiveAttributes
      timeouts := l.timeouts.merge r.timeouts }

end Fragment

end ClientTraits
