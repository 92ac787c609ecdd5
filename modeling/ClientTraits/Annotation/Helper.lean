import ClientTraits.Annotation.Arguments
import ClientTraits.Declaration.Basic

/-!
# Helper attributes

What each helper attribute says: a route, headers, query items, timeouts, or a mark on a parameter.
Each reader first takes the arguments, then refuses unknown names, and then fills its slots from
left to right; so the first of several faults is found in this order.
-/

namespace ClientTraits

open Rust

namespace Helper

/-- The arguments of an attribute, all under known names. -/
def arguments (a : Attribute) (known : List String) : Except AnnotationError Arguments := do
  let arguments ← Arguments.ofAttribute a
  arguments.expectNames known
  return arguments

/-- `#[param("name")]`: the placeholder that a parameter answers to. -/
def rename (a : Attribute) : Except AnnotationError String := do
  let args ← arguments a ["name"]
  args.string 0 "name" "#[param(\"name\")]"

/-- `#[query]` and `#[attr]` on a parameter, perhaps with a name. -/
def binding (a : Attribute) : Except AnnotationError Binding := do
  let args ← arguments a ["name"]
  return ⟨← args.string? 0 "name"⟩

/-- `#[body]`, perhaps with a content type. -/
def payloadMark (a : Attribute) : Except AnnotationError PayloadMark := do
  let args ← arguments a ["content_type"]
  return ⟨← args.string? 0 "content_type"⟩

/-- `#[request("VERB", "/url")]`: a route with any verb but the empty one. -/
def genericRoute (a : Attribute) : Except AnnotationError Route := do
  let form := "#[request(\"VERB\", \"/url\")]"
  let args ← arguments a ["method", "url"]
  let verb ← args.string 0 "method" form
  let url ← args.string 1 "url" form
  if verb.isEmpty then throw .emptyVerb
  return ⟨Verb.ofToken verb, url, false⟩

/-- A route by the attribute that is named for the verb, such as `#[get("/url")]`. -/
def shorthandRoute (verb : Verb) (a : Attribute) : Except AnnotationError Route := do
  let args ← arguments a ["url"]
  let url ← args.string 0 "url" ("#[" ++ verb.shorthand ++ "(\"/url\")]")
  return ⟨verb, url, true⟩

/-- `#[header("Name", "Value")]`. -/
def header (a : Attribute) : Except AnnotationError Header := do
  let form := "#[header(\"Name\", \"Value\")]"
  let args ← arguments a ["name", "value"]
  let name ← args.string 0 "name" form
  let value ← args.string 1 "value" form
  return ⟨name, value⟩

/-- A header line among arguments. -/
def headerLine (line : String) : Except AnnotationError Header :=
  (Header.ofLine line).mapError .line

/-- `#[headers("Name: Value", …)]`. -/
def headers (a : Attribute) : Except AnnotationError (List Header) := do
  let args ← arguments a []
  args.positional.mapM headerLine

/-- `#[query("name", "value")]` on a method. -/
def query (a : Attribute) : Except AnnotationError QueryItem := do
  let form := "#[query(\"name\", \"value\")] on a method"
  let args ← arguments a ["name", "value"]
  let name ← args.string 0 "name" form
  let value ← args.string 1 "value" form
  return .fixed name value

/-- A query line among arguments. -/
def queryLine (line : String) : Except AnnotationError QueryItem :=
  (QueryItem.ofLine line).mapError .line

/-- `#[queries("name=value", …)]`. -/
def queries (a : Attribute) : Except AnnotationError (List QueryItem) := do
  let args ← arguments a []
  args.positional.mapM queryLine

/-- `#[timeout(connect = 1, request = 2, socket = 3)]`. A time that is not given is unset. -/
def timeouts (a : Attribute) : Except AnnotationError Timeouts := do
  let args ← arguments a ["connect", "request", "socket"]
  let connect ← args.integer? "connect"
  let request ← args.integer? "request"
  let socket ← args.integer? "socket"
  return .ofInts (connect.getD (-1)) (request.getD (-1)) (socket.getD (-1))

/-- The helper attributes of a trait. -/
def ofTrait : List String := ["header", "headers", "timeout"]

/-- The helper attributes of a method. -/
def ofMethod : List String :=
  ["request", "get", "post", "put", "patch", "delete", "head", "options", "header", "headers",
   "query", "queries", "timeout"]

/-- The helper attributes of a parameter. -/
def ofParam : List String := ["param", "query", "attr", "body"]

end Helper

end ClientTraits
