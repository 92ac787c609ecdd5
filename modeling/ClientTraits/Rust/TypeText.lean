import ClientTraits.Rust.Item
import ClientTraits.Text.Letter

/-!
# Types as text

A type is shown as it is written, without the blanks between its tokens. A blank stays where it
keeps two words apart: where the last character before it that stays and the next character behind
it both belong to words. The text inside of literals is treated alike.
-/

namespace ClientTraits.Rust

/-- A character of a word: alphanumeric, `_`, or the apostrophe of a lifetime. -/
def isWordChar (c : Char) : Bool :=
  Text.isAlphanumeric c || c == '_' || c == '\''

/-- The blank between `last` and what follows keeps two words apart. -/
def keepsApart (last : Option Char) : List Char → Bool
  | next :: _ => last.any isWordChar && isWordChar next
  | [] => false

/-- The text without the blanks that mean nothing. `last` is the last character that stays of what
stands before the text. -/
def squeezeFrom (last : Option Char) : List Char → List Char
  | [] => []
  | c :: rest =>
    if c = ' ' then
      if keepsApart last rest then ' ' :: squeezeFrom (some ' ') rest else squeezeFrom last rest
    else c :: squeezeFrom (some c) rest

/-- The text without the blanks that mean nothing. -/
def squeeze (cs : List Char) : List Char :=
  squeezeFrom none cs

/-- The shown form of a type. -/
def RustType.shown (t : RustType) : String :=
  String.ofList (squeeze (Tree.textOf t.tokens).toList)

end ClientTraits.Rust
