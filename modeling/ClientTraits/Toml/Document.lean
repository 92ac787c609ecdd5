import ClientTraits.Toml.Scalar
import ClientTraits.Toml.Table

/-!
# Reading a TOML document

A document is a sequence of lines. Each holds at most one statement; arrays and strings may go on
over several lines. The statements then fill the tables.

Arrays and tables in braces nest at most `maxDepth` deep, and no key has more parts than that.
-/

namespace ClientTraits.Toml

open Reader

/-- How deep values may nest, and how many parts a key may have. -/
def maxDepth : Nat := 79

/-- Blanks inside a line. -/
def spaces : Reader Unit := do
  let _ ← span isSpace

/-- A comment, without the end of its line. -/
def comment : Reader Unit := do
  char '#'
  let _ ← span isPlain

/-- The end of a line, which may be the end of the text. -/
def lineEnd : Reader Unit :=
  char '\n' <|> atEnd

/-- Blanks and comments over several lines. -/
def gap : Reader Unit := do
  spaces
  let _ ← many (do
    let _ ← opt comment
    char '\n'
    spaces)

/-! ## Keys -/

/-- A character of a name without quotes. -/
def isBare (c : Char) : Bool :=
  c.isAlphanum || c == '_' || c == '-'

/-- A name. -/
def name : Reader String := do
  match ← ahead with
  | '"' :: _ => lineString '"'
  | '\'' :: _ => lineString '\''
  | _ =>
    let cs ← span isBare
    guard !cs.isEmpty
    return String.ofList cs

/-- The key with the given parts. -/
def Key.ofParts (first : String) (rest : List String) : Key :=
  match rest.reverse with
  | [] => ⟨[], first⟩
  | last :: middle => ⟨first :: middle.reverse, last⟩

/-- A key: names with points between them and blanks around them. -/
def key : Reader Key := do
  let part : Reader String := spaces *> name <* spaces
  let first ← part
  let rest ← many (char '.' *> part)
  guard (rest.length < maxDepth)
  return Key.ofParts first rest

/-! ## Values -/

/-- A key and a value. -/
def pair (value : Reader Value) : Reader (Key × Value) := do
  let k ← key
  char '='
  spaces
  return (k, ← value)

/-- An array. A comma may also come last. -/
def array (value : Reader Value) : Reader Value := do
  char '['
  let items ← commaList (gap *> value <* gap)
  if !items.isEmpty then
    let _ ← opt (char ',')
  gap
  char ']'
  return .array items

/-- A table in braces, on one line. -/
def inlineTable (value : Reader Value) : Reader Value := do
  char '\x7b'
  let pairs ← commaList (pair value <* spaces)
  spaces
  char '\x7d'
  let fields ← (pairs.foldlM put [] : Option Fields)
  return .table .inline fields

/-- A value whose arrays and tables nest at most as deep as the argument says. -/
def value : Nat → Reader Value
  | 0 => scalar
  | depth + 1 => array (value depth) <|> inlineTable (value depth) <|> scalar

/-! ## Lines -/

/-- A statement. -/
def statement : Reader Statement :=
  .element <$> (word "[[" *> key <* word "]]") <|> .header <$> (char '[' *> key <* char ']') <|>
    (fun (k, v) => .pair k v) <$> pair (value maxDepth)

/-- A line, with its statement if it has one. -/
def line : Reader (Option Statement) := do
  guard !(← ahead).isEmpty
  spaces
  let s ← opt statement
  spaces
  let _ ← opt comment
  lineEnd
  return s

/-- A document with plain line feeds at the ends of its lines. -/
def document : Reader (List Statement) := do
  let statements ← many line
  atEnd
  return statements.filterMap id

/-- Write each line end as a plain line feed; nothing if a carriage return stands by itself. -/
def plainLines : List Char → Option (List Char)
  | [] => some []
  | '\r' :: '\n' :: rest => (plainLines rest).map ('\n' :: ·)
  | c :: rest => if c = '\r' then none else (plainLines rest).map (c :: ·)

/-- The text without a mark of the byte order. -/
def withoutMark : List Char → List Char
  | '\ufeff' :: rest => rest
  | cs => cs

/-- The fields of the document that a text is; nothing if it is none. -/
def read? (text : String) : Option Fields := do
  let cs ← plainLines (withoutMark text.toList)
  let (statements, _) ← document cs
  fill? statements

end ClientTraits.Toml
