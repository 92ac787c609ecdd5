import ClientTraits.Declaration.Endpoint
import ClientTraits.Wire.Field

/-!
# The JSON form of requests

How the parts of a request, fragments, signatures and endpoints are written as JSON and read back.
A verb is its token. An unset time is written as `-1`, and every negative time is read as unset. Of
the alternatives of a type, a tag in the first field tells which one is meant.
-/

namespace ClientTraits

open Json (Value)
open Wire

namespace Verb

/-- The written form of a verb. -/
def toJson (v : Verb) : Value :=
  .string v.token

/-- Read a verb. -/
def ofJson? (v : Value) : Option Verb :=
  v.string?.map ofToken

end Verb

namespace Argument

/-- Positions are written in 64 bits. -/
def indexOfJson? : Value → Option Nat
  | .integer (.ofNat n) => if n ≤ 0xFFFFFFFFFFFFFFFF then some n else none
  | _ => none

/-- The written form of an argument. -/
def toJson (a : Argument) : Value :=
  .object [("index", .integer a.index), ("name", .string a.name)]

/-- Read an argument. -/
def ofJson? (v : Value) : Option Argument := do
  let index ← required indexOfJson? "index" v
  let name ← required Value.string? "name" v
  some ⟨index, name⟩

end Argument

namespace Header

/-- The written form of a header. -/
def toJson (h : Header) : Value :=
  .object [("name", .string h.name), ("value", .string h.value)]

/-- Read a header. -/
def ofJson? (v : Value) : Option Header := do
  let name ← required Value.string? "name" v
  let value ← required Value.string? "value" v
  some ⟨name, value⟩

end Header

namespace QueryItem

/-- The written form of a query item. -/
def toJson : QueryItem → Value
  | fixed name value =>
    .object [("kind", .string "constant"), ("name", .string name), ("value", .string value)]
  | bound name argument =>
    .object [("kind", .string "variable"), ("name", .string name), ("param", argument.toJson)]

/-- Read a query item. -/
def ofJson? (v : Value) : Option QueryItem := do
  let kind ← required Value.string? "kind" v
  if kind = "constant" then
    let name ← required Value.string? "name" v
    let value ← required Value.string? "value" v
    some (.fixed name value)
  else if kind = "variable" then
    let name ← required Value.string? "name" v
    let argument ← required Argument.ofJson? "param" v
    some (.bound name argument)
  else none

end QueryItem

namespace ContextAttribute

/-- The written form of a context attribute. -/
def toJson (a : ContextAttribute) : Value :=
  .object [("name", .string a.name), ("param", a.argument.toJson)]

/-- Read a context attribute. -/
def ofJson? (v : Value) : Option ContextAttribute := do
  let name ← required Value.string? "name" v
  let argument ← required Argument.ofJson? "param" v
  some ⟨name, argument⟩

end ContextAttribute

namespace Payload

/-- The written form of a payload. -/
def toJson (p : Payload) : Value :=
  .object (("param", p.argument.toJson) :: optionalField "content_type" .string p.contentType)

/-- Read a payload. An empty content type is kept. -/
def ofJson? (v : Value) : Option Payload := do
  let argument ← required Argument.ofJson? "param" v
  let contentType ← optional Value.string? "content_type" v
  some ⟨argument, contentType⟩

end Payload

namespace Timeouts

/-- The written form of a time. -/
def timeToJson : Option Nat → Value
  | none => .integer (-1)
  | some n => .integer n

/-- The numbers of 64 bits with a sign. -/
def inRange (n : Int) : Bool :=
  decide (-0x8000000000000000 ≤ n) && decide (n ≤ 0x7FFFFFFFFFFFFFFF)

/-- Read a time. -/
def timeOfJson? : Value → Option (Option Nat)
  | .integer n => if inRange n then some (timeOfInt n) else none
  | _ => none

/-- The written form of timeouts. -/
def toJson (t : Timeouts) : Value :=
  .object
    [("connect", timeToJson t.connect), ("request", timeToJson t.request),
     ("socket", timeToJson t.socket)]

/-- Read timeouts. -/
def ofJson? (v : Value) : Option Timeouts := do
  let connect ← required timeOfJson? "connect" v
  let request ← required timeOfJson? "request" v
  let socket ← required timeOfJson? "socket" v
  some ⟨connect, request, socket⟩

end Timeouts

namespace Template.Part

/-- The written form of a part of a template. -/
def toJson : Part → Value
  | fixed text => .object [("kind", .string "constant"), ("text", .string text)]
  | bound name written argument =>
    .object
      [("kind", .string "variable"), ("name", .string name), ("matched", .string written),
       ("param", argument.toJson)]

/-- Read a part of a template. -/
def ofJson? (v : Value) : Option Part := do
  let kind ← required Value.string? "kind" v
  if kind = "constant" then
    let text ← required Value.string? "text" v
    some (.fixed text)
  else if kind = "variable" then
    let name ← required Value.string? "name" v
    let written ← required Value.string? "matched" v
    let argument ← required Argument.ofJson? "param" v
    some (.bound name written argument)
  else none

end Template.Part

namespace Shared

/-- The fields of shared settings. -/
def jsonFields (s : Shared) : List (String × Value) :=
  [("headers", list Header.toJson s.headers), ("timeout", s.timeouts.toJson)]

/-- Read shared settings. -/
def ofJson? (v : Value) : Option Shared := do
  expectObject v
  let headers ← listField Header.ofJson? "headers" v
  let timeouts ← defaulted Timeouts.ofJson? .unset "timeout" v
  some ⟨headers, timeouts⟩

end Shared

namespace Call

/-- The fields of the settings of a method. -/
def jsonFields (c : Call) : List (String × Value) :=
  [("url", list Template.Part.toJson c.url), ("method", c.verb.toJson)] ++
    optionalField "body" Payload.toJson c.payload ++
    [("headers", list Header.toJson c.headers), ("query", list QueryItem.toJson c.query),
     ("attributes", list ContextAttribute.toJson c.attributes), ("timeout", c.timeouts.toJson)]

/-- The written form of the settings of a method. -/
def toJson (c : Call) : Value :=
  .object c.jsonFields

/-- Read the settings of a method. -/
def ofJson? (v : Value) : Option Call := do
  let url ← required (listOf Template.Part.ofJson?) "url" v
  let verb ← required Verb.ofJson? "method" v
  let payload ← optional Payload.ofJson? "body" v
  let headers ← listField Header.ofJson? "headers" v
  let query ← listField QueryItem.ofJson? "query" v
  let attributes ← listField ContextAttribute.ofJson? "attributes" v
  let timeouts ← defaulted Timeouts.ofJson? .unset "timeout" v
  some ⟨url, verb, payload, headers, query, attributes, timeouts⟩

end Call

namespace Fragment

/-- The written form of a fragment. -/
def toJson : Fragment → Value
  | empty => .object [("level", .string "empty")]
  | shared s => .object (("level", .string "class") :: s.jsonFields)
  | call c => .object (("level", .string "method") :: c.jsonFields)

/-- Read a fragment. -/
def ofJson? (v : Value) : Option Fragment := do
  let level ← required Value.string? "level" v
  if level = "empty" then some .empty
  else if level = "class" then (Shared.ofJson? v).map .shared
  else if level = "method" then (Call.ofJson? v).map .call
  else none

end Fragment

namespace Signature

/-- The written form of a signature. -/
def toJson (s : Signature) : Value :=
  .object
    [("owner", .string s.owner), ("method", .string s.method), ("params", Value.strings s.params)]

/-- Read a signature. -/
def ofJson? (v : Value) : Option Signature := do
  let owner ← required Value.string? "owner" v
  let method ← required Value.string? "method" v
  let params ← listField Value.string? "params" v
  some ⟨owner, method, params⟩

end Signature

namespace Endpoint

/-- The written form of an endpoint. -/
def toJson (e : Endpoint) : Value :=
  .object (
    [("signature", e.signature.toJson), ("method", e.verb.toJson),
     ("url", list Template.Part.toJson e.url)] ++
    optionalField "body" Payload.toJson e.payload ++
    [("headers", list Header.toJson e.headers),
     ("attributes", list ContextAttribute.toJson e.attributes),
     ("query", list QueryItem.toJson e.query), ("timeout", e.timeouts.toJson)])

/-- Read an endpoint. -/
def ofJson? (v : Value) : Option Endpoint := do
  let signature ← required Signature.ofJson? "signature" v
  let verb ← required Verb.ofJson? "method" v
  let url ← required (listOf Template.Part.ofJson?) "url" v
  let payload ← optional Payload.ofJson? "body" v
  let headers ← listField Header.ofJson? "headers" v
  let attributes ← listField ContextAttribute.ofJson? "attributes" v
  let query ← listField QueryItem.ofJson? "query" v
  let timeouts ← defaulted Timeouts.ofJson? .unset "timeout" v
  some ⟨signature, verb, url, payload, headers, attributes, query, timeouts⟩

end Endpoint

end ClientTraits
