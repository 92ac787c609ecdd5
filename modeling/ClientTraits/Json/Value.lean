/-!
# JSON values

The data model of JSON. Objects are lists of fields, so that a written object has the field
order of the value. Numbers are kept exactly: an integer is an `Int`, and a number with a
fraction or an exponent stays the text it was read from, since nothing in this library counts
in fractions.
-/

namespace ClientTraits.Json

/-- A JSON value. -/
inductive Value
  | null
  | bool (b : Bool)
  | integer (n : Int)
  /-- A number that is not written as an integer. -/
  | fraction (text : String)
  | string (s : String)
  | array (items : List Value)
  | object (fields : List (String × Value))
  deriving Inhabited, BEq

namespace Value

/-- The value of a field of an object; nothing for an absent field and for other values. -/
def field? (name : String) : Value → Option Value
  | object fields => (fields.find? fun f => f.1 == name).map (·.2)
  | _ => none

/-- The text of a string value. -/
def string? : Value → Option String
  | string s => some s
  | _ => none

/-- The truth value of a Boolean. -/
def bool? : Value → Option Bool
  | bool b => some b
  | _ => none

/-- The number of an integer value. -/
def integer? : Value → Option Int
  | integer n => some n
  | _ => none

/-- The items of an array. -/
def array? : Value → Option (List Value)
  | array items => some items
  | _ => none

/-- The fields of an object. -/
def object? : Value → Option (List (String × Value))
  | object fields => some fields
  | _ => none

/-- An array of strings. -/
def strings (items : List String) : Value :=
  array (items.map string)

/-- A value or `null`. -/
def orNull {α : Type} (encode : α → Value) : Option α → Value
  | none => null
  | some a => encode a

/-- Set a field of an object: in place if it is there, else at the end. -/
def setField (record : Value) (name : String) (v : Value) : Value :=
  match record with
  | object fields =>
    if fields.any (·.1 == name) then
      object (fields.map fun f => if f.1 == name then (name, v) else f)
    else object (fields ++ [(name, v)])
  | other => other

mutual

/-- The same value with the fields of every object in the order of their names. -/
def sorted : Value → Value
  | array items => array (sortedItems items)
  | object fields => object ((sortedFields fields).mergeSort fun a b => decide (a.1 ≤ b.1))
  | other => other

/-- `sorted` on every item. -/
def sortedItems : List Value → List Value
  | [] => []
  | v :: rest => v.sorted :: sortedItems rest

/-- `sorted` on the value of every field. -/
def sortedFields : List (String × Value) → List (String × Value)
  | [] => []
  | (name, v) :: rest => (name, v.sorted) :: sortedFields rest

end

end Value

end ClientTraits.Json
