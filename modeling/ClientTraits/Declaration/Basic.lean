import ClientTraits.Fragment.Basic

/-!
# Declarations

What is written down about an interface, its methods and their parameters, before anything is
merged or checked. Header and query lines are already split; the templates of routes are text.
-/

namespace ClientTraits

/-- A route of a method: its verb and its URL template. -/
structure Route where
  verb : Verb
  template : String
  /-- Declared by the attribute that is named for the verb. -/
  shorthand : Bool
  deriving DecidableEq, Repr

namespace Route

/-- The place of a verb among the shorthand routes. -/
def verbRank : Verb → Nat
  | .get => 0
  | .post => 1
  | .put => 2
  | .patch => 3
  | .delete => 4
  | .head => 5
  | .options => 6
  | .custom _ => 7

/-- Of several routes, the one with the least rank counts: shorthands in the order of their verbs,
then all others. -/
def rank (r : Route) : Nat :=
  if r.shorthand then verbRank r.verb else 7

end Route

/-- An explicit name for a parameter's value, or none. -/
structure Binding where
  name : Option String
  deriving DecidableEq, Repr

/-- The explicit name unless it is missing or empty. -/
def Binding.resolve (b : Binding) (fallback : String) : String :=
  match b.name with
  | some name => if name.isEmpty then fallback else name
  | none => fallback

/-- The mark of a parameter that is sent as payload. -/
structure PayloadMark where
  contentType : Option String
  deriving DecidableEq, Repr

/-- A parameter of a method. -/
structure Param where
  name : String
  /-- The type as it is written, without blanks that mean nothing. -/
  type : String
  /-- The placeholder that the parameter answers to instead of its name. -/
  rename : Option String
  query : Option Binding
  context : Option Binding
  payload : Option PayloadMark
  deriving DecidableEq, Repr

/-- A parameter without marks. -/
def Param.plain (name type : String) : Param :=
  ⟨name, type, none, none, none, none⟩

/-- What tells methods apart: the interface that declares them, the name, the parameter types. -/
structure Signature where
  owner : String
  method : String
  params : List String
  deriving DecidableEq, Repr

namespace Signature

/-- The shown form of a signature. -/
def shown (s : Signature) : String :=
  s.owner ++ "::" ++ s.method ++ "(" ++ ", ".intercalate s.params ++ ")"

/-- Lists of strings in the order of their first difference. -/
def paramsLe : List String → List String → Bool
  | [], _ => true
  | _ :: _, [] => false
  | a :: as, b :: bs => decide (a < b) || (a == b && paramsLe as bs)

/-- The order of signatures: by owner, then by method, then by parameter types. -/
def le (a b : Signature) : Bool :=
  decide (a.owner < b.owner) ||
    (a.owner == b.owner && (decide (a.method < b.method) ||
      (a.method == b.method && paramsLe a.params b.params)))

/-- The distinct signatures in their order. -/
def sortedUnique (items : List Signature) : List Signature :=
  (items.mergeSort le).eraseReps

end Signature

/-- A method with its own settings. -/
structure Method where
  name : String
  /-- An `async fn`, or a method that returns a future. -/
  isAsync : Bool
  params : List Param
  routes : List Route
  headers : List Header
  queries : List QueryItem
  timeouts : Timeouts
  deriving DecidableEq, Repr

/-- The signature of a method under the interface that declares it. -/
def Method.signature (m : Method) (owner : String) : Signature :=
  ⟨owner, m.name, m.params.map Param.type⟩

/-- An interface: a trait with its own settings and methods. -/
structure Interface where
  name : String
  /-- Requests are to be described for this interface. -/
  isClient : Bool
  headers : List Header
  timeouts : Timeouts
  /-- The names of the interfaces it extends. -/
  parents : List String
  methods : List Method
  deriving DecidableEq, Repr

/-- The settings that an interface has for all methods. -/
def Interface.shared (i : Interface) : Fragment :=
  .shared ⟨i.headers, i.timeouts⟩

end ClientTraits
