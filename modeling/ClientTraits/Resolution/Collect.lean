import ClientTraits.Log.Event
import ClientTraits.Resolution.Failure

/-!
# The settings of a declared method

`Method.call` turns what is declared on a method into the settings of its request. It checks, in
this order, that the method is asynchronous, that it has a route, and that each placeholder of the
chosen route has a parameter; the first check that fails is the one reported.
-/

namespace ClientTraits

/-- The first route of the least rank. -/
def leastRoute : List Route → Option Route
  | [] => none
  | r :: rest =>
    match leastRoute rest with
    | none => some r
    | some s => if r.rank ≤ s.rank then some r else some s

namespace Method

/-- The parameters with the references to them. -/
def arguments (m : Method) : List (Param × Argument) :=
  m.params.zipIdx.map fun (p, i) => (p, ⟨i, p.name⟩)

/-- The argument that a placeholder refers to: the first parameter that is renamed to it, else the
first whose own name it is. -/
def argument? (m : Method) (placeholder : String) : Option Argument :=
  match m.arguments.find? fun (p, _) => p.rename == some placeholder with
  | some (_, argument) => some argument
  | none => (m.arguments.find? fun (p, _) => p.name == placeholder).map (·.2)

/-- The route that counts. -/
def chosenRoute (m : Method) : Logged (Option Route) :=
  match leastRoute m.routes with
  | none => pure none
  | some route => do
    if m.routes.length > 1 then
      Logged.emit (.severalRoutes m.name route.verb (m.routes.length - 1))
    pure (some route)

/-- The arguments that are marked as payload. -/
def payloadMarks (m : Method) : List (Argument × PayloadMark) :=
  m.arguments.filterMap fun (p, argument) => p.payload.map fun mark => (argument, mark)

/-- The first argument that is marked as payload. -/
def chosenPayload (m : Method) : Logged (Option Payload) :=
  match m.payloadMarks with
  | [] => pure none
  | (argument, mark) :: extra => do
    if extra.length > 0 then
      Logged.emit (.severalPayloads m.name argument.name extra.length)
    pure (some (Payload.marked argument mark.contentType))

/-- The query items of the method, then those of its parameters. -/
def queryItems (m : Method) : List QueryItem :=
  m.queries ++ m.arguments.filterMap fun (p, argument) =>
    p.query.map fun binding => .bound (binding.resolve p.name) argument

/-- The context attributes of the parameters. -/
def contextAttributes (m : Method) : List ContextAttribute :=
  m.arguments.filterMap fun (p, argument) =>
    p.context.map fun binding => ⟨binding.resolve p.name, argument⟩

/-- The settings of the method's request, or the first defect. -/
def call (m : Method) : Logged (Except Defect Call) :=
  if m.isAsync then do
    match ← m.chosenRoute with
    | none => pure (.error .missingRoute)
    | some route =>
      match Template.compile m.argument? route.template with
      | .error unbound => pure (.error (.unboundPlaceholder unbound.name))
      | .ok url =>
        let payload ← m.chosenPayload
        pure (.ok
          { url := url
            verb := route.verb
            payload := payload
            headers := m.headers
            query := m.queryItems
            attributes := m.contextAttributes
            timeouts := m.timeouts })
  else pure (.error .notAsync)

end Method

end ClientTraits
