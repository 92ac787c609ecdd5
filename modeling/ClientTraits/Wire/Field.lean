import ClientTraits.Json.Value

/-!
# Fields of written records

A record is written as an object. A field is *required*, *optional* (it may be absent or `null`, and
is not written when it is unset) or *defaulted* (it may be absent, but not `null`, and is always
written). Fields that are not known are ignored.
-/

namespace ClientTraits.Wire

open Json (Value)

/-- A field that must be there. -/
def required {α : Type} (decode : Value → Option α) (name : String) (record : Value) : Option α :=
  (record.field? name).bind decode

/-- A field that is unset when it is absent or `null`. -/
def optional {α : Type} (decode : Value → Option α) (name : String) (record : Value) :
    Option (Option α) :=
  match record.field? name with
  | none => some none
  | some .null => some none
  | some v => (decode v).map some

/-- A field that has a value of its own when it is absent. -/
def defaulted {α : Type} (decode : Value → Option α) (default : α) (name : String)
    (record : Value) : Option α :=
  match record.field? name with
  | none => some default
  | some v => decode v

/-- Every item of an array. -/
def listOf {α : Type} (decode : Value → Option α) : Value → Option (List α)
  | .array items => items.mapM decode
  | _ => none

/-- The written form of an optional field: nothing when it is unset. -/
def optionalField {α : Type} (name : String) (encode : α → Value) :
    Option α → List (String × Value)
  | none => []
  | some a => [(name, encode a)]

/-- The written form of a list. -/
def list {α : Type} (encode : α → Value) (items : List α) : Value :=
  .array (items.map encode)

/-- A list that is empty when it is absent. -/
def listField {α : Type} (decode : Value → Option α) (name : String) (record : Value) :
    Option (List α) :=
  defaulted (listOf decode) [] name record

/-- Refuse what is not an object. -/
def expectObject (v : Value) : Option Unit :=
  v.object?.map fun _ => ()

end ClientTraits.Wire
