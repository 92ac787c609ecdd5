import ClientTraits.Rust.Token
import ClientTraits.Text.Digit
import ClientTraits.Text.Letter

/-!
# Literals of Rust

Readers for the literals at the beginning of a text. Each answers with the characters that the
literal takes up, its value and the text behind it, or with nothing if no literal of that kind
begins there. Most literals may have a suffix, which is an identifier.
-/

namespace ClientTraits.Rust

open Text (isIdentifierStart isIdentifierRest hexDigit? numeral? scalar?)

/-- What was read: the characters taken up, what they denote, and the text behind them. -/
structure Scan (α : Type) where
  raw : List Char
  value : α
  rest : List Char

namespace Scan

/-- The same with more characters in front. -/
def after {α : Type} (front : List Char) (s : Scan α) : Scan α :=
  { s with raw := front ++ s.raw }

/-- The same with another value. -/
def map {α β : Type} (f : α → β) (s : Scan α) : Scan β :=
  ⟨s.raw, f s.value, s.rest⟩

/-- A literal with a value that is not looked into. -/
def const {α β : Type} (b : β) (s : Scan α) : Scan β :=
  s.map fun _ => b

end Scan

/-- An identifier at the beginning of a text; a raw one is not looked for. -/
def plainIdentifier? : List Char → Option (Scan Unit)
  | c :: rest =>
    if isIdentifierStart c then
      some ⟨c :: rest.takeWhile isIdentifierRest, (), rest.dropWhile isIdentifierRest⟩
    else none
  | [] => none

/-- Take a suffix to the literal if there is one. -/
def withSuffix {α : Type} (s : Scan α) : Scan α :=
  match plainIdentifier? s.rest with
  | some suffix => ⟨s.raw ++ suffix.raw, s.value, suffix.rest⟩
  | none => s

/-- The kinds of strings. -/
inductive StringKind
  | text
  /-- ASCII only, and no escapes by code point. -/
  | bytes
  /-- No null character. -/
  | cString
  deriving DecidableEq

namespace StringKind

/-- The character may stand in a string of this kind. -/
def admits : StringKind → Char → Bool
  | text, _ => true
  | bytes, c => c.toNat < 0x80
  | cString, c => c.toNat ≠ 0

/-- An escape by two hexadecimal digits may denote this number. -/
def admitsHex : StringKind → Nat → Bool
  | text, n => n < 0x80
  | bytes, _ => true
  | cString, n => n ≠ 0

/-- The character that an escape by one letter denotes. -/
def letterEscape? (k : StringKind) (c : Char) : Option Char :=
  match c with
  | 'n' => some '\n'
  | 'r' => some '\r'
  | 't' => some '\t'
  | '\\' => some '\\'
  | '\'' => some '\''
  | '"' => some '"'
  | '0' => if k = cString then none else some '\x00'
  | _ => none

end StringKind

/-- Where a reader of a string stands. -/
inductive StringMode
  | plain
  /-- Behind a backslash at the end of a line: blanks and line ends do not count. -/
  | lineEnd
  /-- Inside the braces of an escape by code point: its number and the count of its digits. -/
  | codePoint (value digits : Nat)

/-- A string with escapes, behind its opening quote. The value is meant for strings of text. A line
end is a line feed or a carriage return with one; a carriage return alone is not admitted. -/
def stringBody (k : StringKind) : StringMode → List Char → Option (Scan (List Char))
  | _, [] => none
  | .codePoint value digits, '\x7d' :: rest => do
    let c ← if digits = 0 then none else scalar? value
    if !k.admits c then none
    let s ← stringBody k .plain rest
    some ⟨'\x7d' :: s.raw, c :: s.value, s.rest⟩
  | .codePoint value digits, '_' :: rest =>
    if digits = 0 then none
    else (stringBody k (.codePoint value digits) rest).map (·.after ['_'])
  | .codePoint value digits, c :: rest => do
    let d ← hexDigit? c
    if digits ≥ 6 then none
    (stringBody k (.codePoint (16 * value + d) (digits + 1)) rest).map (·.after [c])
  | .lineEnd, ' ' :: rest => (stringBody k .lineEnd rest).map (·.after [' '])
  | .lineEnd, '\t' :: rest => (stringBody k .lineEnd rest).map (·.after ['\t'])
  | .lineEnd, '\n' :: rest => (stringBody k .lineEnd rest).map (·.after ['\n'])
  | .lineEnd, '\r' :: '\n' :: rest => (stringBody k .lineEnd rest).map (·.after ['\r', '\n'])
  | _, '"' :: rest => some ⟨['"'], [], rest⟩
  | _, '\r' :: '\n' :: rest => do
    let s ← stringBody k .plain rest
    some ⟨'\r' :: '\n' :: s.raw, '\n' :: s.value, s.rest⟩
  | _, '\r' :: _ => none
  | _, '\\' :: '\n' :: rest => (stringBody k .lineEnd rest).map (·.after ['\\', '\n'])
  | _, '\\' :: '\r' :: '\n' :: rest =>
    (stringBody k .lineEnd rest).map (·.after ['\\', '\r', '\n'])
  | _, '\\' :: 'x' :: a :: b :: rest => do
    let n ← numeral? 16 [a, b]
    if !k.admitsHex n then none
    let s ← stringBody k .plain rest
    some ⟨'\\' :: 'x' :: a :: b :: s.raw, Char.ofNat n :: s.value, s.rest⟩
  | _, '\\' :: 'u' :: '\x7b' :: rest =>
    if k = .bytes then none
    else (stringBody k (.codePoint 0 0) rest).map (·.after ['\\', 'u', '\x7b'])
  | _, '\\' :: e :: rest => do
    let c ← k.letterEscape? e
    let s ← stringBody k .plain rest
    some ⟨'\\' :: e :: s.raw, c :: s.value, s.rest⟩
  | _, '\\' :: [] => none
  | _, c :: rest => do
    if !k.admits c then none
    let s ← stringBody k .plain rest
    some ⟨c :: s.raw, c :: s.value, s.rest⟩

/-- A raw string behind its opening quote: it ends at a quote with as many `#` behind it as stand
before the opening one. -/
def rawBody (k : StringKind) (hashes : Nat) : List Char → Option (Scan (List Char))
  | [] => none
  | '\r' :: '\n' :: rest => do
    let s ← rawBody k hashes rest
    some ⟨'\r' :: '\n' :: s.raw, '\r' :: '\n' :: s.value, s.rest⟩
  | '\r' :: _ => none
  | c :: rest =>
    if c = '"' ∧ (rest.take hashes) = List.replicate hashes '#' then
      some ⟨c :: rest.take hashes, [], rest.drop hashes⟩
    else do
      if !k.admits c then none
      let s ← rawBody k hashes rest
      some ⟨c :: s.raw, c :: s.value, s.rest⟩

/-- A raw string behind the letter that announces it. -/
def rawString? (k : StringKind) (cs : List Char) : Option (Scan (List Char)) :=
  let hashes := cs.takeWhile (· == '#')
  match cs.dropWhile (· == '#') with
  | '"' :: rest =>
    if hashes.length > 255 then none
    else (rawBody k hashes.length rest).map (·.after (hashes ++ ['"']))
  | _ => none

/-- A string of any kind. -/
def stringLiteral? : List Char → Option (Scan LiteralValue)
  | '"' :: rest =>
    (stringBody .text .plain rest).map fun s =>
      (s.after ['"']).map fun cs => .string (String.ofList cs)
  | 'r' :: rest =>
    (rawString? .text rest).map fun s => (s.after ['r']).map fun cs => .string (String.ofList cs)
  | 'b' :: '"' :: rest =>
    (stringBody .bytes .plain rest).map fun s => (s.after ['b', '"']).const .bytes
  | 'b' :: 'r' :: rest =>
    (rawString? .bytes rest).map fun s => (s.after ['b', 'r']).const .bytes
  | 'c' :: '"' :: rest =>
    (stringBody .cString .plain rest).map fun s => (s.after ['c', '"']).const .bytes
  | 'c' :: 'r' :: rest =>
    (rawString? .cString rest).map fun s => (s.after ['c', 'r']).const .bytes
  | _ => none

/-- The digits of an escape by code point, up to the closing brace. -/
def codePointBody (value digits : Nat) : List Char → Option (Scan Unit)
  | [] => none
  | '\x7d' :: rest =>
    if digits = 0 || (scalar? value).isNone then none else some ⟨['\x7d'], (), rest⟩
  | '_' :: rest =>
    if digits = 0 then none else (codePointBody value digits rest).map (·.after ['_'])
  | c :: rest => do
    let d ← hexDigit? c
    if digits ≥ 6 then none
    (codePointBody (16 * value + d) (digits + 1) rest).map (·.after [c])

/-- One character of a character or byte literal, perhaps an escape. -/
def quotedUnit? (k : StringKind) : List Char → Option (Scan Unit)
  | '\\' :: 'x' :: a :: b :: rest => do
    let n ← numeral? 16 [a, b]
    if k.admitsHex n then some ⟨['\\', 'x', a, b], (), rest⟩ else none
  | '\\' :: 'u' :: '\x7b' :: rest =>
    if k = .bytes then none
    else (codePointBody 0 0 rest).map (·.after ['\\', 'u', '\x7b'])
  | '\\' :: e :: rest => (k.letterEscape? e).map fun _ => ⟨['\\', e], (), rest⟩
  | '\\' :: [] => none
  | c :: rest => if k.admits c then some ⟨[c], (), rest⟩ else none
  | [] => none

/-- A closing apostrophe behind what was read. -/
def closeQuote {α : Type} (s : Scan α) : Option (Scan α) :=
  match s.rest with
  | '\'' :: rest => some ⟨s.raw ++ ['\''], s.value, rest⟩
  | _ => none

/-- A character or a byte. -/
def characterLiteral? : List Char → Option (Scan LiteralValue)
  | 'b' :: '\'' :: rest => do
    let s ← (quotedUnit? .bytes rest).bind closeQuote
    some ((s.after ['b', '\'']).const .bytes)
  | '\'' :: rest => do
    let s ← (quotedUnit? .text rest).bind closeQuote
    some ((s.after ['\'']).const .character)
  | _ => none

/-- A decimal digit. -/
def isDecimal (c : Char) : Bool :=
  '0' ≤ c && c ≤ '9'

/-- A decimal digit or an underscore between digits. -/
def isDigitOrMark (c : Char) : Bool :=
  isDecimal c || c == '_'

/-- What may stand behind the `e` of a float: a sign, then digits and underscores. Nothing if there
is no digit or if there are two signs. -/
def exponent (signed valued : Bool) : List Char → Option (Scan Unit)
  | c :: rest =>
    if c = '+' || c = '-' then
      if valued then some ⟨[], (), c :: rest⟩
      else if signed then none
      else (exponent true valued rest).map (·.after [c])
    else if isDecimal c then (exponent signed true rest).map (·.after [c])
    else if c = '_' then (exponent signed valued rest).map (·.after [c])
    else if valued then some ⟨[], (), c :: rest⟩
    else none
  | [] => if valued then some ⟨[], (), []⟩ else none

/-- An exponent if the text begins with one. -/
def exponentPart? : List Char → Option (Scan Unit)
  | 'e' :: rest => (exponent false false rest).map (·.after ['e'])
  | 'E' :: rest => (exponent false false rest).map (·.after ['E'])
  | _ => none

/-- The number behind a point: more digits and perhaps an exponent. -/
def fractionPart (cs : List Char) : Scan Unit :=
  let digits := cs.takeWhile isDigitOrMark
  let rest := cs.dropWhile isDigitOrMark
  match exponentPart? rest with
  | some s => s.after digits
  | none => ⟨digits, (), rest⟩

/-- The digits, the point and the exponent of a float. A point counts unless a second point or an
identifier follows, as in a range or a method call. -/
def floatBody? (cs : List Char) : Option (Scan Unit) :=
  match cs with
  | c :: _ =>
    if isDecimal c then
      let digits := cs.takeWhile isDigitOrMark
      match cs.dropWhile isDigitOrMark with
      | '.' :: rest =>
        match rest with
        | d :: _ =>
          if d = '.' || isIdentifierStart d then none
          else some ((fractionPart rest).after (digits ++ ['.']))
        | [] => some ⟨digits ++ ['.'], (), []⟩
      | rest => (exponentPart? rest).map (·.after digits)
    else none
  | [] => none

/-- The digits of an integer in a base. A decimal digit that the base does not have is an error, a
letter that it does not have ends the digits. -/
def integerDigits (base : Nat) (started : Bool) (value : Nat) : List Char → Option (Scan Nat)
  | [] => if started then some ⟨[], value, []⟩ else none
  | c :: rest =>
    match hexDigit? c with
    | some d =>
      if d < base then (integerDigits base true (base * value + d) rest).map (·.after [c])
      else if isDecimal c then none
      else if started then some ⟨[], value, c :: rest⟩
      else none
    | none =>
      if c = '_' then
        if !started && base = 10 then none
        else (integerDigits base started value rest).map (·.after [c])
      else if started then some ⟨[], value, c :: rest⟩
      else none

/-- The base mark and the digits of an integer. -/
def integerBody? : List Char → Option (Scan Nat)
  | '0' :: 'x' :: rest => (integerDigits 16 false 0 rest).map (·.after ['0', 'x'])
  | '0' :: 'o' :: rest => (integerDigits 8 false 0 rest).map (·.after ['0', 'o'])
  | '0' :: 'b' :: rest => (integerDigits 2 false 0 rest).map (·.after ['0', 'b'])
  | cs => integerDigits 10 false 0 cs

/-- A number ends where no identifier could go on. -/
def endOfWord {α : Type} (s : Scan α) : Option (Scan α) :=
  match s.rest with
  | c :: _ => if isIdentifierRest c then none else some s
  | [] => some s

/-- A number. What can be read as a float is one. -/
def numberLiteral? (cs : List Char) : Option (Scan LiteralValue) :=
  match (floatBody? cs).bind fun s => endOfWord (withSuffix s) with
  | some s => some (s.const .float)
  | none =>
    ((integerBody? cs).bind fun s => endOfWord (withSuffix s)).map fun s => s.map .integer

/-- The literal at the beginning of a text. -/
def literal? (cs : List Char) : Option (Scan LiteralValue) :=
  match stringLiteral? cs with
  | some s => some (withSuffix s)
  | none =>
    match characterLiteral? cs with
    | some s => some (withSuffix s)
    | none => numberLiteral? cs

/-- The literal that a text is as a whole. -/
def Literal.ofChars? (cs : List Char) : Option Literal := do
  let s ← literal? cs
  if s.rest.isEmpty then some ⟨String.ofList s.raw, s.value⟩ else none

end ClientTraits.Rust
