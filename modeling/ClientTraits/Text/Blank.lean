import ClientTraits.Text.CodeRuns

/-!
# Blank characters

The white space of Unicode (the property `White_Space`), which is wider than the white space
of ASCII, and the removal of it from both ends of a text.
-/

namespace ClientTraits.Text

/-- The characters with the property `White_Space`. -/
def blanks : CodeRuns :=
  [(0x9, 0xD, 1), (0x20, 0x20, 1), (0x85, 0x85, 1), (0xA0, 0xA0, 1), (0x1680, 0x1680, 1),
   (0x2000, 0x200A, 1), (0x2028, 0x2029, 1), (0x202F, 0x202F, 1), (0x205F, 0x205F, 1),
   (0x3000, 0x3000, 1)]

/-- White space in the sense of Unicode. -/
def isBlank (c : Char) : Bool :=
  blanks.hasChar c

/-- Remove the blanks at both ends. -/
def trimChars (cs : List Char) : List Char :=
  ((cs.dropWhile isBlank).reverse.dropWhile isBlank).reverse

/-- Remove the blanks at both ends of a string. -/
def trim (s : String) : String :=
  String.ofList (trimChars s.toList)

end ClientTraits.Text
