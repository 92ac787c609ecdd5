import ClientTraits.Declaration.Endpoint
import ClientTraits.Log.Event
import ClientTraits.Resolution.Failure

/-!
# Reports

The outcome for one root: endpoints in the order in which they were reached, and failures once
each. An endpoint is recorded as often as its method is reached; `Report.duplicates` tells which
signatures were recorded more than once.
-/

namespace ClientTraits

/-- The outcome of resolving one root. -/
structure Report where
  root : String
  endpoints : List Endpoint
  failures : List MethodFailure
  graphErrors : List GraphError
  deriving DecidableEq, Repr

/-- The list with `a` at its end, unless it has it already. -/
def appendNew {α : Type} [DecidableEq α] (items : List α) (a : α) : List α :=
  if a ∈ items then items else items ++ [a]

/-- The items that occurred before, each where it occurs for the second time. -/
def secondOccurrences {α : Type} [DecidableEq α] (seen reported : List α) : List α → List α
  | [] => []
  | a :: rest =>
    if a ∈ seen then
      if a ∈ reported then secondOccurrences seen reported rest
      else a :: secondOccurrences seen (a :: reported) rest
    else secondOccurrences (a :: seen) reported rest

namespace Report

/-- Nothing is resolved yet. -/
def start (root : String) : Report :=
  ⟨root, [], [], []⟩

/-- The first endpoint of a signature. -/
def endpoint? (r : Report) (signature : Signature) : Option Endpoint :=
  r.endpoints.find? fun e => e.signature == signature

/-- The first endpoint of a method of this name. -/
def endpointNamed? (r : Report) (method : String) : Option Endpoint :=
  r.endpoints.find? fun e => e.signature.method == method

/-- The first failure of a method of this name. -/
def failureNamed? (r : Report) (method : String) : Option MethodFailure :=
  r.failures.find? fun f => f.signature.method == method

/-- Add an endpoint, also if its signature has one already. -/
def recordEndpoint (r : Report) (e : Endpoint) : Logged Report := do
  if (r.endpoint? e.signature).isSome then
    Logged.emit (.recordedAgain r.root e.signature)
  pure { r with endpoints := r.endpoints ++ [e] }

/-- Add a failure unless it is there. -/
def recordFailure (r : Report) (f : MethodFailure) : Report :=
  { r with failures := appendNew r.failures f }

/-- Add a graph error unless it is there. -/
def recordGraphError (r : Report) (e : GraphError) : Report :=
  { r with graphErrors := appendNew r.graphErrors e }

/-- The signatures with more than one endpoint, in the order of their second ones. -/
def duplicates (r : Report) : List Signature :=
  secondOccurrences [] [] (r.endpoints.map Endpoint.signature)

/-- Nothing failed. -/
def isClean (r : Report) : Bool :=
  r.failures.isEmpty && r.graphErrors.isEmpty

/-- All endpoints if nothing failed, else all failures. -/
def result (r : Report) : Except Refusal (List Endpoint) :=
  if r.isClean then .ok r.endpoints else .error ⟨r.root, r.failures, r.graphErrors⟩

end Report

end ClientTraits
