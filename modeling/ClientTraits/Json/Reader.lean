import ClientTraits.Json.Value
import ClientTraits.Text.Digit

/-!
# Reading JSON text

A recursive descent reader over characters. Each function takes the characters at hand and
returns what it read with the characters behind it; `none` is a text that is not JSON. The
`depth` argument bounds the nesting of the recursion; `Value.read?` starts it at twice the length
of the text, and every second call takes a character off, so that the bound is never met.

A number without fraction and exponent is an integer of any size. An escape of a surrogate
counts only as half of a pair.
-/

namespace ClientTraits.Json

/-- The blanks that may stand between the tokens of a JSON text. -/
def isSpace (c : Char) : Bool :=
  c == ' ' || c == '\n' || c == '\t' || c == '\r'

/-- Drop blanks. -/
def skipSpace (cs : List Char) : List Char :=
  cs.dropWhile isSpace

/-- The character that two surrogates denote together. -/
def surrogatePair? (high low : Nat) : Option Char :=
  if 0xD800 ≤ high && high < 0xDC00 && 0xDC00 ≤ low && low < 0xE000 then
    some (Char.ofNat (0x10000 + (high - 0xD800) * 0x400 + (low - 0xDC00)))
  else none

/-- A code unit that is a character by itself. -/
def isScalarUnit (unit : Nat) : Bool :=
  unit < 0xD800 || 0xE000 ≤ unit

/-- The character that a one-letter escape stands for. -/
def simpleEscape? : Char → Option Char
  | '"' => some '"'
  | '\\' => some '\\'
  | '/' => some '/'
  | 'b' => some '\x08'
  | 'f' => some '\x0c'
  | 'n' => some '\n'
  | 'r' => some '\r'
  | 't' => some '\t'
  | _ => none

/-- The characters of a string up to its closing quote. -/
def readStringBody : List Char → Option (List Char × List Char)
  | [] => none
  | '"' :: rest => some ([], rest)
  | '\\' :: 'u' :: a :: b :: c :: d :: rest => do
    let unit ← Text.numeral? 16 [a, b, c, d]
    if isScalarUnit unit then
      let (cs, rest) ← readStringBody rest
      some (Char.ofNat unit :: cs, rest)
    else
      match rest with
      | '\\' :: 'u' :: a :: b :: c :: d :: rest =>
        let low ← Text.numeral? 16 [a, b, c, d]
        let char ← surrogatePair? unit low
        let (cs, rest) ← readStringBody rest
        some (char :: cs, rest)
      | _ => none
  | '\\' :: e :: rest => do
    let c ← simpleEscape? e
    let (cs, rest) ← readStringBody rest
    some (c :: cs, rest)
  | c :: rest => do
    if c = '\\' || c.toNat < 0x20 then none
    let (cs, rest) ← readStringBody rest
    some (c :: cs, rest)

/-- A string behind its opening quote. -/
def readString (cs : List Char) : Option (String × List Char) := do
  let (body, rest) ← readStringBody cs
  some (String.ofList body, rest)

/-- The part of a number behind its integer digits: a fraction and an exponent, each optional. -/
def readFractionPart (cs : List Char) : Option (List Char × List Char) := do
  let (frac, rest) ← match cs with
    | '.' :: rest =>
      let digits := rest.takeWhile Char.isDigit
      if digits.isEmpty then none else some ('.' :: digits, rest.dropWhile Char.isDigit)
    | _ => some ([], cs)
  match rest with
  | e :: tail =>
    if e = 'e' || e = 'E' then
      let (sign, tail) := match tail with
        | '+' :: t => (['+'], t)
        | '-' :: t => (['-'], t)
        | t => ([], t)
      let digits := tail.takeWhile Char.isDigit
      if digits.isEmpty then none
      else some (frac ++ e :: sign ++ digits, tail.dropWhile Char.isDigit)
    else some (frac, rest)
  | [] => some (frac, rest)

/-- A number. -/
def readNumber (cs : List Char) : Option (Value × List Char) := do
  let (negative, rest) := match cs with
    | '-' :: rest => (true, rest)
    | rest => (false, rest)
  let digits := rest.takeWhile Char.isDigit
  if digits.isEmpty || (digits.length > 1 && digits.head? == some '0') then none
  let (extra, rest) ← readFractionPart (rest.dropWhile Char.isDigit)
  if extra.isEmpty then
    let n : Int := Text.decimal digits
    some (.integer (if negative then -n else n), rest)
  else
    let sign := if negative then ['-'] else []
    some (.fraction (String.ofList (sign ++ digits ++ extra)), rest)

mutual

/-- A value, with no blanks before it. -/
def readValue : Nat → List Char → Option (Value × List Char)
  | 0, _ => none
  | _ + 1, 'n' :: 'u' :: 'l' :: 'l' :: rest => some (.null, rest)
  | _ + 1, 't' :: 'r' :: 'u' :: 'e' :: rest => some (.bool true, rest)
  | _ + 1, 'f' :: 'a' :: 'l' :: 's' :: 'e' :: rest => some (.bool false, rest)
  | _ + 1, '"' :: rest => do
    let (s, rest) ← readString rest
    some (.string s, rest)
  | depth + 1, '[' :: rest =>
    match skipSpace rest with
    | ']' :: rest => some (.array [], rest)
    | rest => do
      let (items, rest) ← readItems depth rest
      some (.array items, rest)
  | depth + 1, '\x7b' :: rest =>
    match skipSpace rest with
    | '\x7d' :: rest => some (.object [], rest)
    | rest => do
      let (fields, rest) ← readFields depth rest
      some (.object fields, rest)
  | _ + 1, cs => readNumber cs

/-- The items of an array up to its closing bracket. -/
def readItems : Nat → List Char → Option (List Value × List Char)
  | 0, _ => none
  | depth + 1, cs => do
    let (v, rest) ← readValue depth cs
    match skipSpace rest with
    | ',' :: rest =>
      let (items, rest) ← readItems depth (skipSpace rest)
      some (v :: items, rest)
    | ']' :: rest => some ([v], rest)
    | _ => none

/-- The fields of an object up to its closing brace. -/
def readFields : Nat → List Char → Option (List (String × Value) × List Char)
  | 0, _ => none
  | depth + 1, '"' :: cs => do
    let (name, rest) ← readString cs
    match skipSpace rest with
    | ':' :: rest =>
      let (v, rest) ← readValue depth (skipSpace rest)
      match skipSpace rest with
      | ',' :: rest =>
        let (fields, rest) ← readFields depth (skipSpace rest)
        some ((name, v) :: fields, rest)
      | '\x7d' :: rest => some ([(name, v)], rest)
      | _ => none
    | _ => none
  | _ + 1, _ => none

end

/-- The value that a JSON text denotes; nothing if the text is not JSON. -/
def Value.read? (text : String) : Option Value := do
  let cs := skipSpace text.toList
  let (v, rest) ← readValue (2 * cs.length + 2) cs
  if (skipSpace rest).isEmpty then some v else none

end ClientTraits.Json
