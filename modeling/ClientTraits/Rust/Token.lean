/-!
# Token trees of Rust

A Rust text is a sequence of token trees: identifiers, lifetimes, punctuation characters, literals,
and groups, each a sequence of token trees between delimiters. An identifier keeps the spelling it
has in the text, the `r#` of a raw identifier included; so a raw identifier is never mistaken for a
keyword.
-/

namespace ClientTraits.Rust

/-- The three kinds of delimiters. -/
inductive Delimiter
  | parenthesis
  | bracket
  | brace
  deriving DecidableEq, Repr

namespace Delimiter

/-- The opening character. -/
def opening : Delimiter → Char
  | parenthesis => '('
  | bracket => '['
  | brace => '\x7b'

/-- The name of a pair of them. -/
def name : Delimiter → String
  | parenthesis => "parentheses"
  | bracket => "square brackets"
  | brace => "curly braces"

/-- The closing character. -/
def closing : Delimiter → Char
  | parenthesis => ')'
  | bracket => ']'
  | brace => '\x7d'

/-- The delimiter that a character opens. -/
def ofOpening? (c : Char) : Option Delimiter :=
  [parenthesis, bracket, brace].find? fun d => d.opening == c

/-- The delimiter that a character closes. -/
def ofClosing? (c : Char) : Option Delimiter :=
  [parenthesis, bracket, brace].find? fun d => d.closing == c

end Delimiter

/-- What a literal denotes, as far as this library looks into it. -/
inductive LiteralValue
  | string (s : String)
  /-- An integer, without its suffix. -/
  | integer (n : Nat)
  | float
  | character
  /-- A byte, a byte string or a C string. -/
  | bytes
  /-- The mark of a broken literal. -/
  | unknown
  deriving DecidableEq, Repr

/-- A literal as it is written, with its value. -/
structure Literal where
  text : String
  value : LiteralValue
  deriving DecidableEq, Repr

/-- A token tree. -/
inductive Tree
  | ident (name : String)
  /-- A lifetime, without its apostrophe. -/
  | lifetime (name : String)
  /-- A punctuation character; `joint` tells that another one follows without a blank. -/
  | punct (c : Char) (joint : Bool)
  | literal (l : Literal)
  /-- An apostrophe with a literal right behind it. It is no lifetime and has no place in the
  grammar, but it may stand where anything may. -/
  | apostrophe (l : Literal)
  | group (d : Delimiter) (trees : List Tree)
  deriving Repr, Inhabited

namespace Tree

/-- The tree is a character of punctuation. -/
def isPunct : Tree → Bool
  | punct _ _ => true
  | _ => false

mutual

/-- The number of nodes of a tree. -/
def nodes : Tree → Nat
  | group _ trees => 1 + listNodes trees
  | _ => 1

/-- The number of nodes of a sequence of trees. -/
def listNodes : List Tree → Nat
  | [] => 0
  | t :: rest => t.nodes + listNodes rest

end

mutual

/-- The words of a tree. A group in braces has blanks inside of them. -/
def words : Tree → List String
  | ident name => [name]
  | lifetime name => ["'" ++ name]
  | punct c _ => [c.toString]
  | literal l => [l.text]
  | apostrophe l => ["'" ++ l.text]
  | group .brace trees => ["\x7b " ++ " ".intercalate (listWords trees) ++ " \x7d"]
  | group d trees =>
    [d.opening.toString ++ " ".intercalate (listWords trees) ++ d.closing.toString]

/-- The words of a sequence of trees. -/
def listWords : List Tree → List String
  | [] => []
  | t :: rest => t.words ++ listWords rest

end

/-- A sequence of trees as text, with a blank between any two words. -/
def textOf (trees : List Tree) : String :=
  " ".intercalate (listWords trees)

end Tree

end ClientTraits.Rust
