import ClientTraits.Json.Value

/-!
# JSON text

Two written forms of a value: *compact*, without any blank, and *pretty*, one item a line with
an indentation of two blanks for each level. Strings escape the quote, the backslash and the
control characters below U+0020, the five common ones by letter; every other character stands
for itself.
-/

namespace ClientTraits.Json

/-- The lower case digit of a number below 16. -/
def hexDigit (n : Nat) : Char :=
  if n < 10 then Char.ofNat (0x30 + n) else Char.ofNat (0x57 + n)

/-- A character as it stands inside a JSON string. -/
def escapeChar (c : Char) : List Char :=
  if c = '"' then ['\\', '"']
  else if c = '\\' then ['\\', '\\']
  else if c = '\x08' then ['\\', 'b']
  else if c = '\t' then ['\\', 't']
  else if c = '\n' then ['\\', 'n']
  else if c = '\x0c' then ['\\', 'f']
  else if c = '\r' then ['\\', 'r']
  else if c.toNat < 0x20 then
    ['\\', 'u', '0', '0', hexDigit (c.toNat / 16), hexDigit (c.toNat % 16)]
  else [c]

/-- A string between its quotes. -/
def quoted (s : String) : List Char :=
  '"' :: (s.toList.flatMap escapeChar ++ ['"'])

/-- The decimal text of an integer. -/
def integerChars : Int → List Char
  | .ofNat n => Nat.toDigits 10 n
  | .negSucc n => '-' :: Nat.toDigits 10 (n + 1)

namespace Value

mutual

/-- The compact text of a value. -/
def compactChars : Value → List Char
  | null => ['n', 'u', 'l', 'l']
  | bool true => ['t', 'r', 'u', 'e']
  | bool false => ['f', 'a', 'l', 's', 'e']
  | integer n => integerChars n
  | fraction text => text.toList
  | string s => quoted s
  | array items => '[' :: (compactItems items ++ [']'])
  | object fields => '\x7b' :: (compactFields fields ++ ['\x7d'])

/-- The items of an array, with commas between them. -/
def compactItems : List Value → List Char
  | [] => []
  | [v] => v.compactChars
  | v :: w :: rest => v.compactChars ++ ',' :: compactItems (w :: rest)

/-- The fields of an object, with commas between them. -/
def compactFields : List (String × Value) → List Char
  | [] => []
  | [(name, v)] => quoted name ++ ':' :: v.compactChars
  | (name, v) :: f :: rest =>
    quoted name ++ ':' :: (v.compactChars ++ ',' :: compactFields (f :: rest))

end

/-- The compact text of a value. -/
def compact (v : Value) : String :=
  String.ofList v.compactChars

/-- A new line at the given level of nesting. -/
def lineBreak (level : Nat) : List Char :=
  '\n' :: List.replicate (2 * level) ' '

mutual

/-- The pretty text of a value that stands at the given level of nesting. -/
def prettyChars (level : Nat) : Value → List Char
  | null => ['n', 'u', 'l', 'l']
  | bool true => ['t', 'r', 'u', 'e']
  | bool false => ['f', 'a', 'l', 's', 'e']
  | integer n => integerChars n
  | fraction text => text.toList
  | string s => quoted s
  | array [] => ['[', ']']
  | array (v :: rest) =>
    '[' :: (prettyItems (level + 1) (v :: rest) ++ lineBreak level ++ [']'])
  | object [] => ['\x7b', '\x7d']
  | object (f :: rest) =>
    '\x7b' :: (prettyFields (level + 1) (f :: rest) ++ lineBreak level ++ ['\x7d'])

/-- Items on lines of their own. -/
def prettyItems (level : Nat) : List Value → List Char
  | [] => []
  | [v] => lineBreak level ++ v.prettyChars level
  | v :: w :: rest =>
    lineBreak level ++ v.prettyChars level ++ ',' :: prettyItems level (w :: rest)

/-- Fields on lines of their own. -/
def prettyFields (level : Nat) : List (String × Value) → List Char
  | [] => []
  | [(name, v)] => lineBreak level ++ quoted name ++ ':' :: ' ' :: v.prettyChars level
  | (name, v) :: f :: rest =>
    lineBreak level ++ quoted name ++ ':' :: ' ' ::
      (v.prettyChars level ++ ',' :: prettyFields level (f :: rest))

end

/-- The pretty text of a value. -/
def pretty (v : Value) : String :=
  String.ofList (v.prettyChars 0)

end Value

end ClientTraits.Json
