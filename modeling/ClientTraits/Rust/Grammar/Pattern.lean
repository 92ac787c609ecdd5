import ClientTraits.Rust.Grammar.Type
import ClientTraits.Text.Digit

/-!
# Patterns

What may stand on the left of a `let`, in the arm of a `match` or as the input of a function. Only
one thing is kept of a pattern: whether it is a name, and which. In the normal form a closed range
has the dots `..=`, and the number of a field is decimal.
-/

namespace ClientTraits.Rust

namespace Rules

open ClientTraits.Rust.Parser

variable (g : Rules)

/-- A further alternative begins here. -/
def beginsAlternative : Ahead :=
  .butNot (.punct "|") (.anyPunct ["||", "|="])

/-- A pattern with alternatives, perhaps behind a bar. If there is one alternative only, the answer
is its pattern. -/
def alternatives : Parser Pattern := do
  let bar ← optPunct "|"
  let first ← g.pattern
  let rest ← manyWhile beginsAlternative do
    punct "|"
    g.pattern
  return if bar || !rest.isEmpty then .other else first

/-- What ends a range without an upper bound. -/
def endsRange : Ahead :=
  .or .atEnd (.or (.or (.anyPunct ["|", "=", ",", ";"]) (.butNot (.punct ":") (.punct "::")))
    (.keyword "if"))

/-- What a path in an expression begins with. -/
def beginsPathBound : Ahead :=
  .or (.or .ident (.anyKeyword ["self", "Self", "super", "crate"])) (.anyPunct ["::", "<"])

/-- The names of what a bound of a range may begin with. -/
def boundBeginnings : List String :=
  ["literal", "identifier", "`::`", "`<`", "`self`", "`Self`", "`super`", "`crate`", "`const`"]

/-- A bound of a range, or its absence. -/
def rangeBound : Parser Bool := do
  let ts ← ahead
  if endsRange ts then return false
  if Ahead.literal ts then
    let _ ← literal
  else if beginsPathBound ts then
    let _ ← qualifiedPath g true
  else if Ahead.keyword "const" ts then
    keyword "const"
    let _ ← group .brace (blockBody g)
  else fail (.oneOf boundBeginnings)
  return true

/-- The dots of a range. The answer tells whether an upper bound has to follow. -/
def rangeDots : Parser Bool := do
  let ts ← ahead
  if Ahead.punct "..=" ts then
    punct "..="
    return true
  else if Ahead.punct "..." ts then
    unwritten (punct "...")
    write [.punct '.' true, .punct '.' true, .punct '=' false]
    return true
  else
    punct ".."
    return false

/-- The dots and the upper bound of a range that has a lower one. -/
def rangeBehind : Parser Pattern := do
  let closed ← rangeDots
  if ← rangeBound g then return .range false
  if closed then fail (.construct "range upper bound")
  return .range true

/-- A range without a lower bound, or the rest of a sequence. -/
def rangeWithoutStart : Parser Pattern := do
  let closed ← rangeDots
  if ← rangeBound g then return .range true
  if closed then fail (.construct "range upper bound")
  return .rest

/-- Digits of a base with underscores between them, and nothing else. -/
def areDigits (base : Nat) (cs : List Char) : Bool :=
  cs.all fun c => c == '_' || (Text.hexDigit? c).any (· < base)

/-- The literal has no suffix. -/
def isPlainInteger (l : Literal) : Bool :=
  match l.text.toList with
  | '0' :: 'x' :: ds => areDigits 16 ds
  | '0' :: 'o' :: ds => areDigits 8 ds
  | '0' :: 'b' :: ds => areDigits 2 ds
  | ds => areDigits 10 ds

/-- The number of a field that a literal is. -/
def fieldIndex (l : Literal) : Except SyntaxRule Nat :=
  match l.value with
  | .integer n =>
    if !isPlainInteger l then .error .plainIndex
    else if n > 0xFFFFFFFF then .error .smallIndex
    else .ok n
  | _ => .error .integerIndex

/-- The number of a field as a tree. -/
def indexTree (n : Nat) : Tree :=
  .literal ⟨toString n, .integer n⟩

/-- A field of a struct: a name or a number. The answer tells whether it is a name. -/
def member : Parser Bool := do
  let ts ← ahead
  if Ahead.ident ts then
    advance 1
    return true
  match ts with
  | .literal l :: _ =>
    match fieldIndex l with
    | .ok n =>
      unwritten (advance 1)
      write [indexTree n]
      return false
    | .error .integerIndex => fail (.construct "identifier or integer")
    | .error r => reject r
  | _ => fail (.construct "identifier or integer")

/-- A field in the pattern of a struct. -/
def fieldPattern : Parser Unit := do
  let boxed ← optKeyword "box"
  let byRef ← optKeyword "ref"
  let changing ← optKeyword "mut"
  let marked := boxed || byRef || changing
  if marked then
    let _ ← ident
  else
    let named ← member
    if !named || (← peek (.punct ":")) then
      punct ":"
      let _ ← alternatives g

/-- The fields of the pattern of a struct. Behind `..` there are no more. -/
def fieldPatterns : Parser Unit := do
  let _ ← many do
    if ← peek .atEnd then return none
    let _ ← outerAttributes g
    if ← optPunct ".." then return none
    fieldPattern g
    if !(← peek .atEnd) then punct ","
    return some ()

/-- A pattern that begins with a path. -/
def pathPattern : Parser Pattern := do
  let p ← qualifiedPath g true
  let ts ← ahead
  if !p.qualified && p.isPlain && (Ahead.butNot (.punct "!") (.punct "!=")) ts then
    punct "!"
    let _ ← anyGroup
    return .other
  else if Ahead.group .brace ts then
    group .brace (fieldPatterns g)
    return .other
  else if Ahead.group .parenthesis ts then
    let _ ← group .parenthesis (commaList (alternatives g))
    return .other
  else if Ahead.punct ".." ts then rangeBehind g
  else return .other

/-- A name, perhaps by reference, mutable, or with a pattern behind `@`. -/
def namePattern : Parser Pattern := do
  let _ ← optKeyword "ref"
  let _ ← optKeyword "mut"
  let name ← if ← peek (.keyword "self") then word else ident
  if ← optPunct "@" then
    let _ ← g.pattern
  return .name name

/-- A literal or a constant, or a range that begins with one. -/
def literalPattern : Parser Pattern := do
  if !(← rangeBound g) then fail (.construct "literal")
  if ← peek (.punct "..") then rangeBehind g else return .other

/-- What a pattern that begins with a path begins with. -/
def beginsPathPattern : Ahead :=
  let behindName : Ahead :=
    .or (.anyPunct ["::", "!", ".."]) (.or (.group .brace) (.group .parenthesis))
  .or (.and .ident (.second behindName))
    (.or (.and (.keyword "self") (.second (.punct "::")))
      (.or (.anyPunct ["::", "<"]) (.anyKeyword ["Self", "super", "crate"])))

/-- The names of what a pattern may begin with. -/
def patternBeginnings : List String :=
  ["identifier", "`::`", "`<`", "`_`", "literal", "`const`", "`ref`", "`mut`", "`&`", "parentheses",
   "square brackets", "`..`"]

/-- A pattern without alternatives. -/
def patternRule : Parser Pattern := do
  let ts ← ahead
  if beginsPathPattern ts then pathPattern g
  else if Ahead.keyword "_" ts then
    advance 1
    return .other
  else if Ahead.keyword "box" ts then
    verbatim do
      keyword "box"
      let _ ← g.pattern
      return .verbatim
  else if Ahead.punct "-" ts || Ahead.literal ts || Ahead.keyword "const" ts then literalPattern g
  else if Ahead.anyKeyword ["ref", "mut", "self"] ts || Ahead.ident ts then namePattern g
  else if Ahead.punct "&" ts then
    punct "&"
    let _ ← optKeyword "mut"
    let _ ← g.pattern
    return .other
  else if Ahead.group .parenthesis ts then
    let _ ← group .parenthesis (commaList (alternatives g))
    return .other
  else if Ahead.group .bracket ts then
    let _ ← group .bracket do
      commaList do
        let p ← alternatives g
        if p = .range true then reject .closedRange
    return .other
  else if Ahead.punct ".." ts && !Ahead.punct "..." ts then rangeWithoutStart g
  else fail (.oneOf patternBeginnings)

end Rules

end ClientTraits.Rust
