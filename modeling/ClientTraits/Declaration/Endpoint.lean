import ClientTraits.Declaration.Basic

/-!
# Endpoints

The complete description of the request that one method sends: every placeholder is bound, and
no two headers or attributes share a name.
-/

namespace ClientTraits

/-- What one method sends. -/
structure Endpoint where
  signature : Signature
  verb : Verb
  url : List Template.Part
  payload : Option Payload
  headers : List Header
  attributes : List ContextAttribute
  query : List QueryItem
  timeouts : Timeouts
  deriving DecidableEq, Repr

namespace Endpoint

/-- The endpoint of a method from its merged settings. -/
def ofCall (signature : Signature) (c : Call) : Endpoint where
  signature := signature
  verb := c.verb
  url := c.url
  payload := c.payload
  headers := c.effectiveHeaders
  attributes := c.effectiveAttributes
  query := c.query
  timeouts := c.timeouts

/-- No part of the URL depends on an argument. -/
def hasFixedUrl (e : Endpoint) : Bool :=
  e.url.all Template.Part.isFixed

/-- The URL template as it was declared. -/
def template (e : Endpoint) : String :=
  Template.render e.url

/-- The value of the first header of a name. -/
def header? (e : Endpoint) (name : String) : Option String :=
  (e.headers.find? fun h => h.name == name).map Header.value

end Endpoint

end ClientTraits
