import ClientTraits.Declaration.Catalog
import ClientTraits.Wire.Request

/-!
# The JSON form of declarations

How routes, parameters, methods, interfaces and catalogs are written as JSON and read back. A
catalog is read as it is written, also if it holds several interfaces of one name.
-/

namespace ClientTraits

open Json (Value)
open Wire

namespace Route

/-- The written form of a route. -/
def toJson (r : Route) : Value :=
  .object
    [("method", r.verb.toJson), ("template", .string r.template), ("shorthand", .bool r.shorthand)]

/-- Read a route. -/
def ofJson? (v : Value) : Option Route := do
  let verb ← required Verb.ofJson? "method" v
  let template ← required Value.string? "template" v
  let shorthand ← required Value.bool? "shorthand" v
  some ⟨verb, template, shorthand⟩

end Route

namespace Binding

/-- The written form of a binding. -/
def toJson (b : Binding) : Value :=
  .object (optionalField "name" .string b.name)

/-- Read a binding. -/
def ofJson? (v : Value) : Option Binding := do
  expectObject v
  let name ← optional Value.string? "name" v
  some ⟨name⟩

end Binding

namespace PayloadMark

/-- The written form of a payload mark. -/
def toJson (m : PayloadMark) : Value :=
  .object (optionalField "content_type" .string m.contentType)

/-- Read a payload mark. -/
def ofJson? (v : Value) : Option PayloadMark := do
  expectObject v
  let contentType ← optional Value.string? "content_type" v
  some ⟨contentType⟩

end PayloadMark

namespace Param

/-- The written form of a parameter. -/
def toJson (p : Param) : Value :=
  .object (
    [("name", .string p.name), ("ty", .string p.type)] ++
    optionalField "rename" .string p.rename ++
    optionalField "query" Binding.toJson p.query ++
    optionalField "attr" Binding.toJson p.context ++
    optionalField "body" PayloadMark.toJson p.payload)

/-- Read a parameter. -/
def ofJson? (v : Value) : Option Param := do
  let name ← required Value.string? "name" v
  let type ← required Value.string? "ty" v
  let rename ← optional Value.string? "rename" v
  let query ← optional Binding.ofJson? "query" v
  let context ← optional Binding.ofJson? "attr" v
  let payload ← optional PayloadMark.ofJson? "body" v
  some ⟨name, type, rename, query, context, payload⟩

end Param

namespace Method

/-- The written form of a method. -/
def toJson (m : Method) : Value :=
  .object
    [("name", .string m.name), ("is_async", .bool m.isAsync),
     ("params", list Param.toJson m.params), ("routes", list Route.toJson m.routes),
     ("headers", list Header.toJson m.headers), ("queries", list QueryItem.toJson m.queries),
     ("timeout", m.timeouts.toJson)]

/-- Read a method. -/
def ofJson? (v : Value) : Option Method := do
  let name ← required Value.string? "name" v
  let isAsync ← required Value.bool? "is_async" v
  let params ← listField Param.ofJson? "params" v
  let routes ← listField Route.ofJson? "routes" v
  let headers ← listField Header.ofJson? "headers" v
  let queries ← listField QueryItem.ofJson? "queries" v
  let timeouts ← defaulted Timeouts.ofJson? .unset "timeout" v
  some ⟨name, isAsync, params, routes, headers, queries, timeouts⟩

end Method

namespace Interface

/-- The written form of an interface. -/
def toJson (i : Interface) : Value :=
  .object
    [("name", .string i.name), ("is_client", .bool i.isClient),
     ("headers", list Header.toJson i.headers), ("timeout", i.timeouts.toJson),
     ("extends", Value.strings i.parents), ("methods", list Method.toJson i.methods)]

/-- Read an interface. -/
def ofJson? (v : Value) : Option Interface := do
  let name ← required Value.string? "name" v
  let isClient ← required Value.bool? "is_client" v
  let headers ← listField Header.ofJson? "headers" v
  let timeouts ← defaulted Timeouts.ofJson? .unset "timeout" v
  let parents ← listField Value.string? "extends" v
  let methods ← listField Method.ofJson? "methods" v
  some ⟨name, isClient, headers, timeouts, parents, methods⟩

end Interface

namespace Catalog

/-- The written form of a catalog. -/
def toJson (c : Catalog) : Value :=
  .object [("types", list Interface.toJson c.interfaces)]

/-- Read a catalog. -/
def ofJson? (v : Value) : Option Catalog := do
  let interfaces ← required (listOf Interface.ofJson?) "types" v
  some ⟨interfaces⟩

end Catalog

end ClientTraits
