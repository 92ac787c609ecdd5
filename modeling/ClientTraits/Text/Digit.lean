/-!
# Digits and code points

The values of digits and of sequences of digits, and the characters that code points stand for.
Surrogates stand for none.
-/

namespace ClientTraits.Text

/-- The value of a hexadecimal digit. -/
def hexDigit? (c : Char) : Option Nat :=
  if '0' ≤ c && c ≤ '9' then some (c.toNat - 0x30)
  else if 'a' ≤ c && c ≤ 'f' then some (c.toNat - 0x57)
  else if 'A' ≤ c && c ≤ 'F' then some (c.toNat - 0x37)
  else none

/-- The number of digits in a base, the first one counting most; nothing if one of them is no
hexadecimal digit. -/
def numeral? (base : Nat) (digits : List Char) : Option Nat :=
  digits.foldlM (fun n c => (hexDigit? c).map (base * n + ·)) 0

/-- The number that decimal digits denote. -/
def decimal (digits : List Char) : Nat :=
  digits.foldl (fun n c => n * 10 + (c.toNat - 0x30)) 0

/-- A number by hexadecimal digits, in lower case and without zeros in front. -/
def hexChars (n : Nat) : List Char :=
  Nat.toDigits 16 n

/-- The character of a code point, if it is one. -/
def scalar? (n : Nat) : Option Char :=
  if n < 0xD800 || (0xE000 ≤ n && n ≤ 0x10FFFF) then some (Char.ofNat n) else none

end ClientTraits.Text
