import ClientTraits.Text.CaseTable
import ClientTraits.Text.LetterTable

/-!
# Letter classes

Which characters are alphanumeric, upper or lower case, and which may start or continue an
identifier, over all of Unicode. The ASCII part of each class is decided by arithmetic, the
rest by table.
-/

namespace ClientTraits.Text

/-- Letters, numbers of every kind and alphabetic marks. -/
def isAlphanumeric (c : Char) : Bool :=
  if c.toNat < 0x80 then c.isAlphanum else letters.hasChar c || alphanumericOnly.hasChar c

/-- A character with the property Uppercase. -/
def isUppercase (c : Char) : Bool :=
  if c.toNat < 0x80 then c.isUpper else uppercase.hasChar c

/-- A character with the property Lowercase. -/
def isLowercase (c : Char) : Bool :=
  if c.toNat < 0x80 then c.isLower else lowercase.hasChar c

/-- May start an identifier: a letter, `_`, or one of the two symbols that Unicode admits. -/
def isIdentifierStart (c : Char) : Bool :=
  if c.toNat < 0x80 then c.isAlpha || c == '_'
  else letters.hasChar c || c.toNat == 0x2118 || c.toNat == 0x212E

/-- May continue an identifier. -/
def isIdentifierRest (c : Char) : Bool :=
  if c.toNat < 0x80 then c.isAlphanum || c == '_'
  else isIdentifierStart c || continuingOnly.hasChar c

end ClientTraits.Text
