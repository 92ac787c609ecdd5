import ClientTraits.Rust.Literal
import ClientTraits.Text.Blank
import ClientTraits.Text.HiddenTable

/-!
# From text to token trees

The text is gone through once, from left to right, with the groups that are open on a stack. Each
step takes at least one character: a blank, a comment, a delimiter or a token. A documentation
comment stands for the attribute `doc` with its text, `#[doc = "…"]` or `#![doc = "…"]`.

A text has no token trees if a character starts no token, a literal or a comment does not end, or
the delimiters do not match.
-/

namespace ClientTraits.Rust

open Text (isIdentifierStart isIdentifierRest)

/-- Blanks between tokens: white space and the two marks of writing direction. -/
def isSpace (c : Char) : Bool :=
  Text.isBlank c || c == '\u200e' || c == '\u200f'

/-- The text of a block comment behind its opening, and what follows its end. Comments nest;
`depth` counts the comments that are open inside of it. -/
def blockComment (depth : Nat) : List Char → Option (List Char × List Char)
  | '/' :: '*' :: rest => (blockComment (depth + 1) rest).map fun (t, r) => ('/' :: '*' :: t, r)
  | '*' :: '/' :: rest =>
    match depth with
    | 0 => some ([], rest)
    | depth + 1 => (blockComment depth rest).map fun (t, r) => ('*' :: '/' :: t, r)
  | c :: rest => (blockComment depth rest).map fun (t, r) => (c :: t, r)
  | [] => none

/-- The text up to the end of the line, and what follows it. -/
def restOfLine : List Char → List Char × List Char
  | [] => ([], [])
  | '\n' :: rest => ([], '\n' :: rest)
  | '\r' :: '\n' :: rest => ([], '\n' :: rest)
  | c :: rest =>
    let (line, behind) := restOfLine rest
    (c :: line, behind)

/-- Every carriage return has a line feed behind it. -/
def hasNoBareReturn : List Char → Bool
  | '\r' :: '\n' :: rest => hasNoBareReturn rest
  | '\r' :: _ => false
  | _ :: rest => hasNoBareReturn rest
  | [] => true

/-- A character inside a string literal that denotes it. One that cannot be seen by itself stands
there by its number. -/
def escapeInLiteral (c : Char) : List Char :=
  if c = '"' then ['\\', '"']
  else if c = '\\' then ['\\', '\\']
  else if c = '\n' then ['\\', 'n']
  else if c = '\r' then ['\\', 'r']
  else if c = '\t' then ['\\', 't']
  else if Text.isHidden c then ['\\', 'u', '\x7b'] ++ Text.hexChars c.toNat ++ ['\x7d']
  else [c]

/-- A text inside a string literal that denotes it. A null character has a name of one digit unless
an octal digit follows. -/
def escapedText : List Char → List Char
  | [] => []
  | '\x00' :: rest =>
    match rest with
    | d :: _ =>
      (if '0' ≤ d && d ≤ '7' then ['\\', 'x', '0', '0'] else ['\\', '0']) ++ escapedText rest
    | [] => ['\\', '0']
  | c :: rest => escapeInLiteral c ++ escapedText rest

/-- The string literal of a text. -/
def Literal.ofString (s : String) : Literal :=
  ⟨"\"" ++ String.ofList (escapedText s.toList) ++ "\"", .string s⟩

/-- The attribute that a documentation comment stands for; an inner one has a `!`. -/
def docAttribute (inner : Bool) (text : List Char) : List Tree :=
  let bang := if inner then [Tree.punct '!' false] else []
  Tree.punct '#' false :: bang ++
    [.group .bracket
      [.ident "doc", .punct '=' false, .literal (.ofString (String.ofList text))]]

/-- The characters that punctuation consists of. -/
def punctuation : List Char :=
  "~!@#$%^&*-=+|;:,<.>/?'".toList

/-- The text begins with punctuation. The slash of a comment is none. -/
def startsPunct : List Char → Bool
  | '/' :: '/' :: _ => false
  | '/' :: '*' :: _ => false
  | c :: _ => c ∈ punctuation
  | [] => false

/-- An identifier, perhaps a raw one. The five words that name something by themselves have no raw
form. -/
def identifier? (cs : List Char) : Option (Scan Unit) :=
  match cs with
  | 'r' :: '#' :: rest => do
    let s ← plainIdentifier? rest
    if String.ofList s.raw ∈ ["_", "super", "self", "Self", "crate"] then none
    some (s.after ['r', '#'])
  | cs => plainIdentifier? cs

/-- The text begins like a string or a byte; then no identifier begins there. -/
def startsQuoted (cs : List Char) : Bool :=
  ["r\"", "r#\"", "r##", "b\"", "b'", "br\"", "br#", "c\"", "cr\"", "cr#"].any fun start =>
    start.toList.isPrefixOf cs

/-- A literal as a tree of the given kind, and what follows it. -/
def literalTree (kind : Literal → Tree) (s : Scan LiteralValue) : Tree × List Char :=
  (kind ⟨String.ofList s.raw, s.value⟩, s.rest)

/-- What an apostrophe that opens no character begins, from behind it on: a lifetime, or a literal
that begins with a letter. The word behind it does not run into another apostrophe. -/
def behindApostrophe? (rest : List Char) : Option (Tree × List Char) := do
  let s ← identifier? rest
  match s.rest with
  | '\'' :: _ => none
  | '#' :: _ => if !(List.isPrefixOf ['r', '#'] rest) then none
  | _ => pure ()
  match literal? rest with
  | some l => some (literalTree .apostrophe l)
  | none => if startsQuoted rest then none else some (.lifetime (String.ofList s.raw), s.rest)

/-- The mark of a broken literal. -/
def brokenMark : List Char :=
  "(/*ERROR*/)".toList

/-- A token that is not a group. -/
def leaf? (cs : List Char) : Option (Tree × List Char) :=
  match literal? cs with
  | some s => some (literalTree .literal s)
  | none =>
    if startsPunct cs then
      match cs with
      | '\'' :: rest => behindApostrophe? rest
      | c :: rest => some (.punct c (startsPunct rest), rest)
      | [] => none
    else if startsQuoted cs then none
    else (identifier? cs).map fun s => (.ident (String.ofList s.raw), s.rest)

/-- The state of the lexer: the groups that are open, the innermost first, each with the trees
before it in reverse; the trees of the innermost one in reverse; and the rest of the text. -/
structure Lexer where
  outer : List (Delimiter × List Tree)
  trees : List Tree
  rest : List Char

namespace Lexer

/-- The state before a text. -/
def start (cs : List Char) : Lexer := ⟨[], [], cs⟩

/-- Go on behind a comment or a blank. -/
def skip (l : Lexer) (rest : List Char) : Lexer :=
  { l with rest := rest }

/-- Add trees and go on behind them. -/
def push (l : Lexer) (trees : List Tree) (rest : List Char) : Lexer :=
  { l with trees := trees.reverse ++ l.trees, rest := rest }

/-- Add the attribute of a documentation comment. -/
def doc? (l : Lexer) (inner : Bool) (text rest : List Char) : Option Lexer :=
  if hasNoBareReturn text then some (l.push (docAttribute inner text) rest) else none

/-- A line comment behind its two slashes. -/
def lineComment? (l : Lexer) (cs : List Char) : Option Lexer :=
  let (line, rest) := restOfLine cs
  match line with
  | '/' :: '/' :: _ => some (l.skip rest)
  | '/' :: text => l.doc? false text rest
  | '!' :: text => l.doc? true text rest
  | _ => some (l.skip rest)

/-- A block comment behind its opening. -/
def blockComment? (l : Lexer) (cs : List Char) : Option Lexer := do
  let (text, rest) ← blockComment 0 cs
  match cs with
  | '!' :: _ => l.doc? true (text.drop 1) rest
  | '*' :: '*' :: _ => some (l.skip rest)
  | '*' :: _ => l.doc? false (text.drop 1) rest
  | _ => some (l.skip rest)

/-- Open a group. -/
def openGroup (l : Lexer) (d : Delimiter) (rest : List Char) : Lexer :=
  ⟨(d, l.trees) :: l.outer, [], rest⟩

/-- Close the innermost group. -/
def closeGroup? (l : Lexer) (d : Delimiter) (rest : List Char) : Option Lexer :=
  match l.outer with
  | (opened, before) :: outer =>
    if opened = d then some ⟨outer, .group d l.trees.reverse :: before, rest⟩ else none
  | [] => none

/-- One step on a text that is not empty. -/
def step? (l : Lexer) : Option Lexer :=
  match l.rest with
  | [] => none
  | '/' :: '/' :: rest => l.lineComment? rest
  | '/' :: '*' :: '*' :: '/' :: rest => some (l.skip rest)
  | '/' :: '*' :: rest => l.blockComment? rest
  | c :: rest =>
    if isSpace c then some (l.skip rest)
    else if brokenMark.isPrefixOf (c :: rest) then
      let mark := Tree.literal ⟨String.ofList brokenMark, .unknown⟩
      some (l.push [mark] ((c :: rest).drop brokenMark.length))
    else
      match Delimiter.ofOpening? c, Delimiter.ofClosing? c with
      | some d, _ => some (l.openGroup d rest)
      | none, some d => l.closeGroup? d rest
      | none, none => (leaf? (c :: rest)).map fun (tree, rest) => l.push [tree] rest

/-- All steps to the end of the text. The first argument bounds their number. -/
def run? : Nat → Lexer → Option (List Tree)
  | bound, l =>
    if l.rest.isEmpty then
      if l.outer.isEmpty then some l.trees.reverse else none
    else
      match bound with
      | 0 => none
      | bound + 1 => l.step?.bind (run? bound)

end Lexer

/-- Drop the mark of the byte order. -/
def dropByteOrderMark : List Char → List Char
  | '\ufeff' :: rest => rest
  | cs => cs

/-- The token trees of a text. There are no more steps than characters. -/
def trees? (cs : List Char) : Option (List Tree) :=
  let cs := dropByteOrderMark cs
  (Lexer.start cs).run? cs.length

/-- Drop blanks and comments that are no documentation. An unfinished comment stays. -/
def skipBlankText : Nat → List Char → List Char
  | 0, cs => cs
  | bound + 1, cs =>
    match cs with
    | '/' :: '/' :: rest =>
      let (line, behind) := restOfLine rest
      match line with
      | '/' :: '/' :: _ => skipBlankText bound behind
      | '/' :: _ => cs
      | '!' :: _ => cs
      | _ => skipBlankText bound behind
    | '/' :: '*' :: '*' :: '/' :: rest => skipBlankText bound rest
    | '/' :: '*' :: rest =>
      match rest, blockComment 0 rest with
      | '!' :: _, _ => cs
      | '*' :: '*' :: _, some (_, behind) => skipBlankText bound behind
      | '*' :: _, _ => cs
      | _, some (_, behind) => skipBlankText bound behind
      | _, none => cs
    | c :: rest => if isSpace c then skipBlankText bound rest else cs
    | [] => []

/-- Drop the first line if it names an interpreter: it begins with `#!` and is not the beginning of
an inner attribute. -/
def dropInterpreterLine (cs : List Char) : List Char :=
  match cs with
  | '#' :: '!' :: rest =>
    match skipBlankText rest.length rest with
    | '[' :: _ => cs
    | _ => cs.dropWhile (· != '\n')
  | _ => cs

/-- The token trees of a source file. -/
def fileTrees? (text : String) : Option (List Tree) :=
  trees? (dropInterpreterLine (dropByteOrderMark text.toList))

end ClientTraits.Rust
