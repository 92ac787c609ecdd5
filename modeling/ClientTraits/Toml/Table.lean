import ClientTraits.Toml.Value

/-!
# Filling the tables of a TOML document

A document fills its tables statement by statement. No field is given twice, a table has at most one
header, and what is in braces is complete. On its way to a table, a header may lead through
every table that is not in braces. A dotted key may lead only through tables that have no
header of their own, and the last of them must itself be made by dotted keys. Either way leads into
an array of tables by its last element.
-/

namespace ClientTraits.Toml

/-- Change one field, given its value if there is one. A new field comes last. -/
def changeField (name : String) (change : Option Value → Option Value) : Fields → Option Fields
  | [] => (change none).map fun v => [(name, v)]
  | (n, v) :: rest =>
    if n = name then (change (some v)).map fun v => (n, v) :: rest
    else (changeField name change rest).map ((n, v) :: ·)

/-- Change the last of several tables. -/
def changeLast (change : Fields → Option Fields) : List Fields → Option (List Fields)
  | [] => none
  | [fields] => (change fields).map ([·])
  | fields :: rest => (changeLast change rest).map (fields :: ·)

/-- Change the table that a value is or ends with, if tables of its origin are admitted. -/
def Value.enter? (admits : Origin → Bool) (change : Fields → Option Fields) : Value → Option Value
  | table origin fields => if admits origin then (change fields).map (table origin) else none
  | tables elements => if admits .element then (changeLast change elements).map tables else none
  | _ => none

/-- A header may lead through a table of this origin. -/
def Origin.onHeaderPath (o : Origin) : Bool :=
  o != .inline

/-- A dotted key may lead through a table of this origin; `last` tells that the field belongs into
this very table. -/
def Origin.onDottedPath (last : Bool) : Origin → Bool
  | dotted => true
  | implied => !last
  | element => !last
  | inline => false
  | header => false

/-- Change the table at the end of a header's path. Tables missing on the way are implied. -/
def changeTable (change : Fields → Option Fields) : List String → Fields → Option Fields
  | [], fields => change fields
  | name :: path, fields =>
    changeField name (fun
      | none => (changeTable change path []).map (.table .implied)
      | some v => v.enter? Origin.onHeaderPath (changeTable change path)) fields

/-- Give a field its value, behind a path of dotted names. -/
def putField (name : String) (value : Value) : List String → Fields → Option Fields
  | [], fields =>
    changeField name (fun
      | none => some value
      | some _ => none) fields
  | step :: path, fields =>
    changeField step (fun
      | none => (putField name value path []).map (.table .dotted)
      | some v => v.enter? (Origin.onDottedPath path.isEmpty) (putField name value path)) fields

/-- Give the field of a key its value. -/
def put (fields : Fields) (pair : Key × Value) : Option Fields :=
  putField pair.1.name pair.2 pair.1.path fields

/-- The table of a header begins. -/
def beginTable : Option Value → Option Value
  | none => some (.table .header [])
  | some (.table .implied fields) => some (.table .header fields)
  | some _ => none

/-- One more element of an array of tables begins. -/
def beginElement : Option Value → Option Value
  | none => some (.tables [[]])
  | some (.tables elements) => some (.tables (elements ++ [[]]))
  | some _ => none

/-- A document up to some line: all fields so far, and the path of the last header. -/
structure Progress where
  fields : Fields
  current : List String

/-- Obey a statement. -/
def Progress.step? (p : Progress) : Statement → Option Progress
  | .pair key value =>
    (changeTable (fun fields => put fields (key, value)) p.current p.fields).map fun fields =>
      { p with fields := fields }
  | .header key =>
    (changeTable (changeField key.name beginTable) key.path p.fields).map fun fields =>
      ⟨fields, key.path ++ [key.name]⟩
  | .element key =>
    (changeTable (changeField key.name beginElement) key.path p.fields).map fun fields =>
      ⟨fields, key.path ++ [key.name]⟩

/-- The fields of a document; nothing if its statements contradict each other. -/
def fill? (statements : List Statement) : Option Fields :=
  (statements.foldlM Progress.step? ⟨[], []⟩).map Progress.fields

end ClientTraits.Toml
