/-!
# Values of a TOML document

Numbers with a fraction and points in time keep their text: nothing here computes with them. A table
also tells how it came to be, since that decides what may still be added to it.
-/

namespace ClientTraits.Toml

/-- How a table came to be. -/
inductive Origin
  /-- In braces. It is complete. -/
  | inline
  /-- By a dotted key. Other dotted keys may add to it. -/
  | dotted
  /-- By the header of a table inside it. It may get a header of its own. -/
  | implied
  /-- By its own header. -/
  | header
  /-- As an element of an array of tables. -/
  | element
  deriving DecidableEq, Repr

/-- A value. -/
inductive Value
  | string (s : String)
  | bool (b : Bool)
  | integer (n : Int)
  /-- A number with a fraction or an exponent, an infinity, or not a number. -/
  | float (written : String)
  /-- A date, a time of day, or both. -/
  | moment (written : String)
  | array (items : List Value)
  | table (origin : Origin) (fields : List (String × Value))
  /-- Tables that each came with a header in double brackets. -/
  | tables (elements : List (List (String × Value)))
  deriving Repr

/-- The fields of a table. -/
abbrev Fields := List (String × Value)

/-- A key: the name of a field and the names of the tables that lead to it. -/
structure Key where
  path : List String
  name : String
  deriving DecidableEq, Repr

/-- A line that says something. -/
inductive Statement
  /-- A key and its value. -/
  | pair (key : Key) (value : Value)
  /-- The header of a table, `[key]`. -/
  | header (key : Key)
  /-- The header of one more element of an array of tables, `[[key]]`. -/
  | element (key : Key)
  deriving Repr

end ClientTraits.Toml
