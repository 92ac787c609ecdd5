import ClientTraits.Declaration.Basic

/-!
# What can fail in a resolution

A method fails by itself (`Defect`), and the graph of interfaces can be at fault (`GraphError`).
`Refusal` sums up all failures of one root for callers that give up on any of them.
-/

namespace ClientTraits

/-- Why a method has no endpoint. -/
inductive Defect
  /-- No attribute gives the method a route. -/
  | missingRoute
  /-- The placeholder of this name has no parameter. -/
  | unboundPlaceholder (name : String)
  /-- The method neither is `async` nor returns a future. -/
  | notAsync
  deriving DecidableEq, Repr

/-- The wording of a defect. -/
def Defect.message : Defect → String
  | missingRoute =>
    "methods in a client trait must be annotated with #[request] or one of the HTTP method attributes"
  | unboundPlaceholder name => Template.Unbound.message ⟨name⟩
  | notAsync => "client methods must be `async fn` or return a future"

/-- A method that has no endpoint. -/
structure MethodFailure where
  signature : Signature
  defect : Defect
  deriving DecidableEq, Repr

/-- The wording of a method's failure. -/
def MethodFailure.message (f : MethodFailure) : String :=
  f.signature.shown ++ ": " ++ f.defect.message

/-- A fault of the graph of interfaces. -/
inductive GraphError
  /-- The root is not declared. -/
  | undeclared (name : String)
  /-- An interface extends one that is on the path to it already. -/
  | cyclic (child parent : String)
  deriving DecidableEq, Repr

/-- The wording of a graph error. -/
def GraphError.message : GraphError → String
  | undeclared name => "type `" ++ name ++ "` is not declared"
  | cyclic child parent =>
    "`" ++ child ++ "` extends `" ++ parent ++ "`, which is already on the inheritance path"

/-- All failures of one root. -/
structure Refusal where
  root : String
  failures : List MethodFailure
  graphErrors : List GraphError
  deriving DecidableEq, Repr

/-- The wording of a refusal. -/
def Refusal.message (r : Refusal) : String :=
  toString r.failures.length ++ " method(s) and " ++ toString r.graphErrors.length ++
    " type(s) of `" ++ r.root ++ "` failed to resolve"

end ClientTraits
