import ClientTraits.Text.Digit
import ClientTraits.Toml.Reader
import ClientTraits.Toml.Value

/-!
# Values without parts

Strings, numbers, points in time and truth values. Line ends are single line feeds here.

A string is read in two steps: up to its closing quotes, where a backslash protects the character
behind it, and then the escapes in it.
-/

namespace ClientTraits.Toml

open Reader

/-! ## Strings -/

/-- A character that may stand in a line of text: a tab, or one that controls nothing. -/
def isPlain (c : Char) : Bool :=
  c == '\t' || (0x20 ≤ c.toNat && c != '\x7f')

/-- A string in double quotes knows escapes, one in single quotes does not. -/
def escapes (quote : Char) : Bool :=
  quote == '"'

/-- The text of a string on one line, up to its closing quote. -/
def lineBody (quote : Char) : List Char → Option (List Char × List Char)
  | [] => none
  | c :: rest =>
    if c = quote then some ([], rest)
    else if escapes quote && c = '\\' then
      match rest with
      | [] => none
      | d :: rest =>
        if !isPlain d then none
        else (lineBody quote rest).map fun (body, behind) => (c :: d :: body, behind)
    else if isPlain c then (lineBody quote rest).map fun (body, behind) => (c :: body, behind)
    else none

/-- The text of a string on several lines, up to its three closing quotes. One or two quotes in
front of those still belong to it. -/
def linesBody (quote : Char) : List Char → Option (List Char × List Char)
  | [] => none
  | c :: rest =>
    let quotes := ((c :: rest).takeWhile (· == quote)).length
    if quotes ≥ 3 then
      let inside := min (quotes - 3) 2
      some (List.replicate inside quote, (c :: rest).drop (inside + 3))
    else if escapes quote && c = '\\' then
      match rest with
      | [] => none
      | d :: rest => (linesBody quote rest).map fun (body, behind) => (c :: d :: body, behind)
    else if isPlain c || c = '\n' then
      (linesBody quote rest).map fun (body, behind) => (c :: body, behind)
    else none

/-- The character that a one-letter escape stands for. -/
def letterEscape? : Char → Option Char
  | 'b' => some '\x08'
  | 't' => some '\t'
  | 'n' => some '\n'
  | 'f' => some '\x0c'
  | 'r' => some '\r'
  | '"' => some '"'
  | '\\' => some '\\'
  | _ => none

/-- A blank inside a line. -/
def isSpace (c : Char) : Bool :=
  c == ' ' || c == '\t'

/-- Only blanks are left of the line. -/
def endsLine (cs : List Char) : Bool :=
  match cs.dropWhile isSpace with
  | '\n' :: _ => true
  | _ => false

/-- The characters that a text with escapes denotes. A backslash at the end of a line takes away the
blanks and line ends behind it; `trimming` tells that these are being left out. -/
def unescape (trimming : Bool) : List Char → Option (List Char)
  | [] => some []
  | '\\' :: 'u' :: a :: b :: c :: d :: rest => do
    let char ← (Text.numeral? 16 [a, b, c, d]).bind Text.scalar?
    (unescape false rest).map (char :: ·)
  | '\\' :: 'U' :: a :: b :: c :: d :: e :: f :: g :: h :: rest => do
    let char ← (Text.numeral? 16 [a, b, c, d, e, f, g, h]).bind Text.scalar?
    (unescape false rest).map (char :: ·)
  | '\\' :: e :: rest =>
    match letterEscape? e with
    | some char => (unescape false rest).map (char :: ·)
    | none => if endsLine (e :: rest) then unescape true (e :: rest) else none
  | c :: rest =>
    if trimming && (isSpace c || c = '\n') then unescape true rest
    else if c = '\\' then none
    else (unescape false rest).map (c :: ·)

/-- What the text between the quotes denotes. -/
def denoted (quote : Char) (body : List Char) : Option String :=
  (if escapes quote then unescape false body else some body).map String.ofList

/-- A string on one line. -/
def lineString (quote : Char) : Reader String := do
  char quote
  let body ← (lineBody quote : Reader (List Char))
  (denoted quote body : Option String)

/-- A string on several lines. A line end right behind the opening quotes is left out. -/
def linesString (quote : Char) : Reader String := do
  word (String.ofList [quote, quote, quote])
  let _ ← opt (char '\n')
  let body ← (linesBody quote : Reader (List Char))
  (denoted quote body : Option String)

/-- A string. Three quotes always open one on several lines. -/
def string : Reader String := do
  match ← ahead with
  | '"' :: '"' :: '"' :: _ => linesString '"'
  | '"' :: _ => lineString '"'
  | '\'' :: '\'' :: '\'' :: _ => linesString '\''
  | _ => lineString '\''

/-! ## Numbers -/

/-- Digits, perhaps with single underscores between them. -/
def digits (p : Char → Bool) : Reader (List Char) := do
  let first ← oneOf p
  let rest ← many (oneOf p <|> char '_' *> oneOf p)
  return first :: rest

/-- The digits of an integer: no zero in front of others. -/
def wholeDigits : Reader (List Char) := do
  match ← opt (char '0') with
  | some () => return ['0']
  | none => digits Char.isDigit

/-- A sign; whether it is a minus. -/
def sign : Reader Bool := do
  match ← opt (oneOf fun c => c == '+' || c == '-') with
  | some c => return c == '-'
  | none => return false

/-- A digit of a base up to sixteen. -/
def isDigitOf (base : Nat) (c : Char) : Bool :=
  (Text.hexDigit? c).any (· < base)

/-- A number in another base than ten, behind its mark. -/
def basedInteger (mark : String) (base : Nat) : Reader Int := do
  word mark
  let ds ← digits (isDigitOf base)
  let n ← (Text.numeral? base ds : Option Nat)
  return n

/-- A decimal integer. -/
def decimalInteger : Reader Int := do
  let negative ← sign
  let n : Int := Text.decimal (← wholeDigits)
  return if negative then -n else n

/-- An integer of 64 bits. -/
def integer : Reader Int := do
  let n ← basedInteger "0x" 16 <|> basedInteger "0o" 8 <|> basedInteger "0b" 2 <|> decimalInteger
  guard (-0x8000000000000000 ≤ n && n ≤ 0x7FFFFFFFFFFFFFFF)
  return n

/-- The least number that is too large for a binary float of 64 bits: half a step above the largest
one. -/
def floatOverflow : Nat :=
  (Nat.pow 2 54 - 1) * Nat.pow 2 970

/-- `n * 10 ^ scale` is too large for a binary float of 64 bits. With `309` digits before its point
it has to be looked at closely; with more it is too large, with fewer it is not. -/
def overflows (n : Nat) (scale : Int) : Bool :=
  let size : Int := (toString n).length + scale
  if n = 0 || size < 309 then false
  else if 309 < size then true
  else if 0 ≤ scale then floatOverflow ≤ n * Nat.pow 10 scale.toNat
  else floatOverflow * Nat.pow 10 (-scale).toNat ≤ n

/-- The digits behind a point. -/
def fraction : Reader (List Char) :=
  char '.' *> digits Char.isDigit

/-- An exponent. -/
def exponent : Reader Int := do
  let _ ← oneOf fun c => c == 'e' || c == 'E'
  let negative ← sign
  let n : Int := Text.decimal (← digits Char.isDigit)
  return if negative then -n else n

/-- A number with a fraction or an exponent or both. Only above zero it can be too large. -/
def pointNumber : Reader Unit := do
  let negative ← sign
  let whole ← wholeDigits
  let frac ← opt fraction
  let exp ← opt exponent
  guard (frac.isSome || exp.isSome)
  let behind := frac.getD []
  guard (negative || !overflows (Text.decimal (whole ++ behind)) (exp.getD 0 - behind.length))

/-- A float. -/
def float : Reader Unit :=
  pointNumber <|> (do
    let _ ← sign
    word "inf" <|> word "nan")

/-! ## Points in time -/

/-- Two digits for a number in a range. -/
def twoDigits (least most : Nat) : Reader Nat := do
  let n := Text.decimal (← exactly 2 Char.isDigit)
  guard (least ≤ n && n ≤ most)
  return n

/-- The number of days of a month. -/
def daysInMonth (year month : Nat) : Nat :=
  if month = 2 then
    if year % 4 = 0 && (year % 100 ≠ 0 || year % 400 = 0) then 29 else 28
  else if month ∈ [4, 6, 9, 11] then 30
  else 31

/-- A date. -/
def date : Reader Unit := do
  let year := Text.decimal (← exactly 4 Char.isDigit)
  char '-'
  let month ← twoDigits 1 12
  char '-'
  let _ ← twoDigits 1 (daysInMonth year month)

/-- A time of day. The second 60 is one that was inserted. -/
def timeOfDay : Reader Unit := do
  let _ ← twoDigits 0 23
  char ':'
  let _ ← twoDigits 0 59
  char ':'
  let _ ← twoDigits 0 60
  let _ ← opt (char '.' *> oneOf Char.isDigit *> span Char.isDigit)

/-- The distance from universal time. -/
def offset : Reader Unit :=
  (do let _ ← oneOf fun c => c == 'Z' || c == 'z') <|> (do
    let _ ← oneOf fun c => c == '+' || c == '-'
    let _ ← twoDigits 0 23
    char ':'
    let _ ← twoDigits 0 59)

/-- A time of day behind a date. -/
def timeBehindDate : Reader Unit := do
  let _ ← oneOf fun c => c == 'T' || c == 't' || c == ' '
  timeOfDay
  let _ ← opt offset

/-- A date, a time of day, or both. -/
def moment : Reader Unit :=
  (do
    date
    let _ ← opt timeBehindDate) <|> timeOfDay

/-- A value without parts. What begins like a date is not a number. -/
def scalar : Reader Value :=
  .string <$> string <|> .moment <$> written moment <|> .float <$> written float <|>
    .integer <$> integer <|> word "true" *> pure (.bool true) <|>
    word "false" *> pure (.bool false)

end ClientTraits.Toml
