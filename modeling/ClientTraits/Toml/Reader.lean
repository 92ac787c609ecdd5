/-!
# Readers of characters

A reader takes characters from the front of a text, or fails and takes nothing.
-/

namespace ClientTraits.Toml

/-- A reader. -/
abbrev Reader := StateT (List Char) Option

namespace Reader

/-- The characters that follow. -/
def ahead : Reader (List Char) := get

/-- Take a character with the property. -/
def oneOf (p : Char → Bool) : Reader Char := do
  match ← ahead with
  | c :: rest =>
    guard (p c)
    set rest
    return c
  | [] => failure

/-- Take the given character. -/
def char (c : Char) : Reader Unit := do
  let _ ← oneOf (· == c)

/-- Take the given text. -/
def word (w : String) : Reader Unit := do
  let cs ← ahead
  guard (w.toList.isPrefixOf cs)
  set (cs.drop w.length)

/-- Take exactly `n` characters, all with the property. -/
def exactly (n : Nat) (p : Char → Bool) : Reader (List Char) := do
  let front := (← ahead).take n
  guard (front.length == n && front.all p)
  modify (List.drop n)
  return front

/-- Take all characters up to the first one without the property. -/
def span (p : Char → Bool) : Reader (List Char) := do
  let cs ← ahead
  set (cs.dropWhile p)
  return cs.takeWhile p

/-- Nothing follows. -/
def atEnd : Reader Unit := do
  guard (← ahead).isEmpty

/-- Run a reader if it does not fail. -/
def opt {α : Type} (r : Reader α) : Reader (Option α) :=
  some <$> r <|> pure none

/-- Run a reader until it fails, at most as often as the bound says. -/
def manyBounded {α : Type} (r : Reader α) : Nat → Reader (List α)
  | 0 => pure []
  | bound + 1 => do
    match ← opt r with
    | none => return []
    | some a => return a :: (← manyBounded r bound)

/-- Run a reader until it fails. Each run takes a character, so the bound is never met. -/
def many {α : Type} (r : Reader α) : Reader (List α) := do
  manyBounded r (← ahead).length

/-- Items with commas between them, none at the end. -/
def commaList {α : Type} (item : Reader α) : Reader (List α) := do
  match ← opt item with
  | none => return []
  | some first => return first :: (← many (char ',' *> item))

/-- Run a reader and keep what it took. -/
def written (r : Reader Unit) : Reader String := do
  let before ← ahead
  r
  return String.ofList (before.take (before.length - (← ahead).length))

end Reader

end ClientTraits.Toml
