import ClientTraits.Rust.Grammar.Pattern
import ClientTraits.Rust.Literal
import ClientTraits.Text.Split

/-!
# Expressions and statements

An expression is an operand, and behind it operators with operands of their own, by precedence. An
operand is an atom with prefix operators before and calls, fields, indices and `?` behind it. Where
a block follows, as behind the condition of an `if`, a struct literal may not stand at the front of
an expression.

As a statement, an expression that ends in a block needs no semicolon, and it ends there unless a
field or `?` follows. The attributes in front of a statement or an arm belong to the expression, as
a rule to its first operand. What has no normal form has no attributes there, and a range that they
belong to has parentheses.
-/

namespace ClientTraits.Rust

namespace Rules

open ClientTraits.Rust.Parser

variable (g : Rules)

/-! ## Operators -/

/-- The operators between operands, longer ones first. -/
def binaryOperators : List (String × Precedence) :=
  [("+=", .assign), ("-=", .assign), ("*=", .assign), ("/=", .assign), ("%=", .assign),
   ("^=", .assign), ("&=", .assign), ("|=", .assign), ("<<=", .assign), (">>=", .assign),
   ("&&", .and), ("||", .or), ("<<", .shift), (">>", .shift), ("==", .compare), ("<=", .compare),
   ("!=", .compare), (">=", .compare), ("+", .sum), ("-", .sum), ("*", .product), ("/", .product),
   ("%", .product), ("^", .bitXor), ("&", .bitAnd), ("|", .bitOr), ("<", .compare),
   (">", .compare)]

/-- The operator that follows. -/
def operatorAhead (ts : List Tree) : Option (String × Precedence) :=
  binaryOperators.find? fun (text, _) => Ahead.punct text ts

/-- An assignment follows. -/
def assignAhead : Ahead :=
  .butNot (.punct "=") (.punct "=>")

/-- The precedence of the operator that follows. -/
def precedenceAhead (ts : List Tree) : Precedence :=
  match operatorAhead ts with
  | some (_, p) => p
  | none =>
    if assignAhead ts then .assign
    else if Ahead.punct ".." ts then .range
    else if Ahead.keyword "as" ts then .cast
    else .none

/-- The operators that bind tighter than the given one, behind its right operand. An assignment
groups to the right. -/
def tighterOperators (structs : Bool) (p : Precedence) : Nat → Expr → Parser Expr
  | 0, e => return e
  | bound + 1, e => do
    let ts ← ahead
    let next := precedenceAhead ts
    if p.level < next.level || (next = p && p = .assign) then
      let e ← g.operators structs next e
      if (← ahead).length == ts.length then return e
      tighterOperators structs p bound e
    else return e

/-- The right operand of an operator. -/
def rightOperand (structs : Bool) (p : Precedence) : Parser Unit := do
  let e ← g.operand structs
  let _ ← tighterOperators g structs p ((← ahead).length + 1) e

/-- The dots of a range in an expression. -/
def rangeOperator : Parser Bool := do
  if ← peek (.punct "..=") then
    punct "..="
    return true
  else if ← peek (.butNot (.punct "..") (.punct "...")) then
    punct ".."
    return false
  else fail (.oneOf ["`..`", "`..=`"])

/-- What cannot begin the upper bound of a range. -/
def endsOpenRange (structs : Bool) : Ahead :=
  .or (.or .atEnd (.keyword "as"))
    (.or (.or (.butNot (.punct ".") (.punct "..")) fun ts => !structs && Ahead.group .brace ts)
      (.anyPunct
        [",", ";", "?", "=>", "=", "+", "/", "%", "^", ">", "<=", "!=", "-=", "*=", "&=", "|=",
         "<<="]))

/-- Parentheses around a block at the front of some trees. One with attributes of its own does not
need them. -/
def parenthesizeBlock : List Tree → List Tree
  | .group .brace trees :: rest =>
    if Ahead.punct "#" trees && Ahead.second (.punct "!") trees then .group .brace trees :: rest
    else .group .parenthesis [.group .brace trees] :: rest
  | trees => trees

/-- The dots of a range and its upper bound if there is one. In front of a block, a block at the
front of the bound is in parentheses. -/
def rangeTail (structs : Bool) : Parser Unit := do
  let closed ← rangeOperator
  if !closed && (← peek (endsOpenRange structs)) then return
  let (_, bound) ← captured (rightOperand g structs .range)
  write (if structs then bound else parenthesizeBlock bound)

/-- The trailer that follows; there must be none behind the type of a cast. -/
def trailerAhead (ts : List Tree) : Option Trailer :=
  if (Ahead.butNot (.punct ".") (.punct "..")) ts then
    if (Ahead.second (.keyword "await")) ts then some .await
    else if (Ahead.second .ident) ts && (Ahead.third (.or (.group .parenthesis) (.punct "::"))) ts
    then some .method
    else some .field
  else if Ahead.punct "?" ts then some .question
  else if Ahead.group .bracket ts then some .index
  else if Ahead.group .parenthesis ts then some .call
  else none

/-- One operator of at least the given precedence with its right operand, if one follows. -/
def operatorStep (structs : Bool) (base : Precedence) (e : Expr) : Parser (Option Expr) := do
  if e = .range then return none
  let ts ← ahead
  match operatorAhead ts with
  | some (text, p) =>
    if p.level < base.level then return none
    if p = .compare && e = .comparison then reject .unchained
    punct text
    rightOperand g structs p
    return some (if p = .compare then .comparison else .other)
  | none =>
    if base.level ≤ Precedence.assign.level && assignAhead ts then
      punct "="
      rightOperand g structs .assign
      return some .other
    else if base.level ≤ Precedence.range.level && Ahead.punct ".." ts then
      rangeTail g structs
      return some .range
    else if base.level ≤ Precedence.cast.level && Ahead.keyword "as" ts then
      keyword "as"
      let _ ← g.type false
      if let some t := trailerAhead (← ahead) then reject (.castEnd t)
      return some .other
    else return none

/-- Operators as long as one follows. -/
def operatorLoop (structs : Bool) (base : Precedence) : Nat → Expr → Parser Expr
  | 0, e => return e
  | bound + 1, e => do
    match ← operatorStep g structs base e with
    | some e => operatorLoop structs base bound e
    | none => return e

/-- The operators of at least the given precedence behind a left operand. -/
def operatorsRule (structs : Bool) (base : Precedence) (e : Expr) : Parser Expr := do
  operatorLoop g structs base ((← ahead).length + 1) e

/-! ## Trailers -/

/-- The fields that a number with a point stands for: two of them, as in `x.0.1`, or one with the
next point, as in `x.0.y`. The trees have a point behind each field but perhaps the last. -/
def fieldNumbers (text : String) : Except SyntaxRule (List Tree) := do
  let trees ← (Text.pieceChars '.' text.toList).mapM fun piece =>
    if piece.isEmpty then .ok []
    else
      match Literal.ofChars? piece with
      | some l => (fieldIndex l).map fun n => [indexTree n]
      | none => .error .integerIndex
  return [Tree.punct '.' false].intercalate trees

/-- The name of a field or a method behind its dot, and the arguments of a method. -/
def namedMember : Parser Unit := do
  if ← optKeyword "await" then return
  if ← member then
    let turbofish ← peek (.punct "::")
    if turbofish then
      let _ ← angleArguments g
    if turbofish || (← peek (.group .parenthesis)) then
      let _ ← group .parenthesis (commaList (g.expression true))

/-- What follows the dot of a field or a method call. A number with a dot at its end is a field with
the next dot. -/
def afterDot : Parser Unit := do
  match ← ahead with
  | .literal ⟨text, .float⟩ :: _ =>
    match fieldNumbers text with
    | .ok trees =>
      unwritten (advance 1)
      write trees
      if text.endsWith "." then namedMember g
    | .error r => reject r
  | _ => namedMember g

/-- A call, a field, an index or a `?`, if one follows. -/
def trailerStep (e : Expr) : Parser (Option Expr) := do
  let ts ← ahead
  if Ahead.group .parenthesis ts then
    let _ ← group .parenthesis (commaList (g.expression true))
    return some .other
  else if e ≠ .range && (Ahead.butNot (.punct ".") (.punct "..")) ts then
    punct "."
    afterDot g
    return some .other
  else if Ahead.group .bracket ts then
    let _ ← group .bracket (g.expression true)
    return some .other
  else if e ≠ .range && Ahead.punct "?" ts then
    punct "?"
    return some .other
  else return none

/-- Trailers as long as one follows. -/
def trailerLoop : Nat → Expr → Parser Expr
  | 0, e => return e
  | bound + 1, e => do
    match ← trailerStep g e with
    | some e => trailerLoop bound e
    | none => return e

/-- All trailers behind an atom. -/
def trailers (e : Expr) : Parser Expr := do
  trailerLoop g ((← ahead).length + 1) e

/-! ## Atoms -/

/-- A block without attributes of its own. -/
def plainBlock : Parser Unit :=
  group .brace g.statements

/-- A block that may begin with attributes of its own. -/
def richBlock : Parser Unit := do
  let _ ← group .brace (blockBody g)

/-- A condition: no struct literal at its front. -/
def condition : Parser Unit := do
  let _ ← g.expression false

/-- An `if` with all its branches. -/
def conditional : Parser Unit := do
  keyword "if"
  condition g
  plainBlock g
  let _ ← many do
    if ← optKeyword "else" then
      if ← optKeyword "if" then
        condition g
        plainBlock g
        return some ()
      else if ← peek (.group .brace) then
        plainBlock g
        return none
      else fail (.oneOf ["`if`", Delimiter.brace.name])
    else return none

/-- One arm of a `match`. An arm that ends in a block needs no comma. -/
def arm : Parser Unit := do
  let _ ← outerAttributes g
  let _ ← alternatives g
  if ← optKeyword "if" then
    let _ ← g.expression true
  punct "=>"
  let (_, attributes) ← captured (outerAttributes g)
  let body ← g.leading .arm attributes
  if body ≠ .block && !(← peek .atEnd) then punct ","
  else
    let _ ← optPunct ","

/-- A `match` with its arms. -/
def matching : Parser Unit := do
  keyword "match"
  condition g
  group .brace do
    let _ ← innerAttributes g
    let _ ← manyUntil .atEnd (arm g)

/-- A `while` loop. -/
def whileLoop : Parser Unit := do
  keyword "while"
  condition g
  richBlock g

/-- A `for` loop. -/
def forLoop : Parser Unit := do
  keyword "for"
  let _ ← alternatives g
  keyword "in"
  condition g
  richBlock g

/-- A loop or a block behind a label. -/
def labeled : Parser Unit := do
  lifetime
  punct ":"
  let ts ← ahead
  if Ahead.keyword "while" ts then whileLoop g
  else if Ahead.keyword "for" ts then forLoop g
  else if Ahead.keyword "loop" ts then
    keyword "loop"
    richBlock g
  else if Ahead.group .brace ts then richBlock g
  else fail (.construct "loop or block expression")

/-- Trees behind the attributes that belong to them; a range has parentheses then. -/
def attributed (attributes : List Tree) (isRange : Bool) (trees : List Tree) : List Tree :=
  if isRange && !attributes.isEmpty then attributes ++ [.group .parenthesis trees]
  else attributes ++ trees

/-- A parameter of a closure. Its attributes belong to it if it has a type, and to the pattern
otherwise. -/
def closureInput : Parser Unit := do
  let (_, attributes) ← captured (outerAttributes g)
  let (p, copy) ← captured g.pattern
  if ← peek (.punct ":") then
    write (attributes ++ copy)
    punct ":"
    let _ ← g.type true
  else write <| match p with
    | .range _ => attributed attributes true copy
    | .verbatim => copy
    | _ => attributes ++ copy

/-- A closure. One with an output type has a block as its body. -/
def closure (structs : Bool) : Parser Unit := do
  let _ ← optQuantifier g
  let _ ← optKeyword "const"
  let _ ← optKeyword "static"
  let _ ← optKeyword "async"
  let _ ← optKeyword "move"
  punct "|"
  let _ ← separated "," (.punct "|") (closureInput g)
  punct "|"
  if ← peek (.punct "->") then
    let _ ← output g true
    plainBlock g
  else
    let _ ← g.expression structs

/-- A field of a struct literal. A number needs a value. -/
def fieldValue : Parser Unit := do
  let _ ← outerAttributes g
  let named ← member
  if !named || (← peek (.punct ":")) then
    punct ":"
    let _ ← g.expression true

/-- The fields of a struct literal. Behind `..` there is at most one expression. -/
def fieldValues : Parser Unit := do
  let _ ← many do
    if ← peek .atEnd then return none
    if ← optPunct ".." then
      if !(← peek .atEnd) then
        let _ ← g.expression true
      return none
    fieldValue g
    if !(← peek .atEnd) then punct ","
    return some ()

/-- An expression that begins with a path: the path itself, a macro, or a struct literal. -/
def pathExpression (structs : Bool) : Parser Expr := do
  let p ← qualifiedPath g true
  let ts ← ahead
  if !p.qualified && p.isPlain && (Ahead.butNot (.punct "!") (.punct "!=")) ts then
    punct "!"
    let d ← anyGroup
    return .invocation (d == .brace)
  else if structs && Ahead.group .brace ts then
    group .brace (fieldValues g)
    return .other
  else return .other

/-- The content of parentheses: nothing, one expression, or several with commas. -/
def parenthesizedExpression : Parser Expr := do
  if ← peek .atEnd then return .other
  let first ← g.expression true
  if ← peek .atEnd then return .grouped first
  punct ","
  let _ ← commaList (g.expression true)
  return .other

/-- The content of brackets: items, or one item and a count. -/
def arrayItems : Parser Unit := do
  if ← peek .atEnd then return
  let _ ← g.expression true
  if ← peek .atEnd then return
  if ← optPunct ";" then
    let _ ← g.expression true
  else if ← optPunct "," then
    let _ ← commaList (g.expression true)
  else fail (.construct "`,` or `;`")

/-- What an expression can begin with. -/
def beginsExpression : Ahead :=
  .or (.or (.or .word .anyGroup) (.or .literal .lifetime))
    (.or (.anyPunct ["..", "::", "#"])
      (.or (.or (.butNot (.punct "!") (.punct "!="))
          (.butNot (.punct "-") (.anyPunct ["-=", "->"])))
        (.or (.or (.butNot (.punct "*") (.punct "*=")) (.butNot (.punct "|") (.punct "|=")))
          (.or (.butNot (.punct "&") (.punct "&="))
            (.butNot (.punct "<") (.anyPunct ["<=", "<<="]))))))

/-- A value begins here that may stand behind `return`, `yield` or `break`. -/
def beginsValue : Ahead :=
  .butNot beginsExpression (.keyword "as")

/-- The value of a `return` or a `yield`, if there is one. -/
def optValue : Parser Unit := do
  if ← peek beginsValue then
    let _ ← g.expression true

/-- A `break` with its label and its value. A labeled value needs parentheses. -/
def breaking (structs : Bool) : Parser Unit := do
  keyword "break"
  if ← peek (.and .lifetime (.second (.punct ":"))) then
    let _ ← g.expression true
    reject .parentheses
  optLifetime
  let ts ← ahead
  if beginsValue ts && (structs || !Ahead.group .brace ts) then
    let _ ← g.expression true

/-- A `let` in a condition. -/
def letCondition (structs : Bool) : Parser Unit := do
  keyword "let"
  let _ ← alternatives g
  punct "="
  let e ← g.operand structs
  let _ ← g.operators structs .compare e

/-- A closure begins here. -/
def beginsClosure : Ahead :=
  .or (.or (.punct "|") (.anyKeyword ["move", "static"]))
    (.or (.and (.keyword "for") (.second beginsGenerics))
      (.or (.and (.keyword "const") (.second fun ts => !Ahead.group .brace ts))
        (.and (.keyword "async") (.second (.or (.punct "|") (.keyword "move"))))))

/-- An asynchronous block begins here. -/
def beginsAsyncBlock : Ahead :=
  .and (.keyword "async")
    (.or (.second (.group .brace)) (.and (.second (.keyword "move")) (.third (.group .brace))))

/-- A path begins here. -/
def beginsPathExpression : Ahead :=
  .or (.or .ident (.anyKeyword ["self", "Self", "super", "crate"]))
    (.or (.anyPunct ["::", "<"]) (.and (.keyword "try") (.second (.anyPunct ["!", "::"]))))

/-- An atom that begins with a word, if it is one of those that have a rule of their own. -/
def keywordAtom (structs : Bool) (w : String) : Option (Parser Expr) :=
  let block (p : Parser Unit) : Option (Parser Expr) := some do
    p
    return .block
  let other (p : Parser Unit) : Option (Parser Expr) := some do
    p
    return .other
  match w with
  | "break" => other (breaking g structs)
  | "continue" => other do
    keyword "continue"
    optLifetime
  | "return" => other do
    keyword "return"
    optValue g
  | "yield" => other do
    keyword "yield"
    optValue g
  | "become" => some <| verbatim do
    keyword "become"
    let _ ← g.expression true
    return .verbatim
  | "let" => other (letCondition g structs)
  | "if" => block (conditional g)
  | "while" => block (whileLoop g)
  | "for" => block (forLoop g)
  | "loop" => block do
    keyword "loop"
    richBlock g
  | "match" => block (matching g)
  | "unsafe" => block do
    keyword "unsafe"
    richBlock g
  | "const" => block do
    keyword "const"
    richBlock g
  | "_" => other (advance 1)
  | _ => none

/-- An atom. -/
def atom (structs : Bool) : Parser Expr := do
  let ts ← ahead
  if Ahead.literal ts then literal
  else if beginsAsyncBlock ts then
    keyword "async"
    let _ ← optKeyword "move"
    plainBlock g
    return .other
  else if (Ahead.and (.keyword "try") (.second (.group .brace))) ts then
    keyword "try"
    plainBlock g
    return .block
  else if beginsClosure ts then
    closure g structs
    return .other
  else if beginsBuiltIn ts then
    builtIn
    return .verbatim
  else if beginsPathExpression ts then pathExpression g structs
  else
    match ts with
    | .group .parenthesis _ :: _ => group .parenthesis (parenthesizedExpression g)
    | .group .bracket _ :: _ =>
      group .bracket (arrayItems g)
      return .other
    | .group .brace _ :: _ =>
      richBlock g
      return .block
    | .ident w :: _ => (keywordAtom g structs w).getD (fail .expression)
    | _ =>
      if Ahead.punct ".." ts then
        rangeTail g structs
        return .range
      else if Ahead.lifetime ts then
        labeled g
        return .block
      else fail .expression

/-! ## Operands and expressions -/

/-- An operand: an atom with its prefix operators and its trailers. -/
def operandRule (structs : Bool) : Parser Expr := do
  let start ← get
  let attributes ← outerAttributes g
  let ts ← ahead
  if Ahead.punct "&" ts then
    punct "&"
    let raw ← peek (.and (.keyword "raw") (.second (.anyKeyword ["mut", "const"])))
    if raw then keyword "raw"
    let changing ← optKeyword "mut"
    if raw && !changing then keyword "const"
    let _ ← g.operand structs
    return .other
  else if Ahead.anyPunct ["*", "!"] ts then
    advance 1
    let _ ← g.operand structs
    return .other
  else if Ahead.punct "-" ts then
    advance 1
    return .negated (← g.operand structs)
  else
    let e ← trailers g (← atom g structs)
    if e = .range && !attributes.isEmpty then reject .plainRange
    if e = .verbatim then copySince start
    return e

/-- An expression. -/
def expressionRule (structs : Bool) : Parser Expr := do
  let e ← operandRule g structs
  operatorsRule g structs .none e

/-- An expression that ends in its block if it stands at the front of a statement or an arm. -/
def blockAtom (ts : List Tree) : Option (Parser Unit) :=
  match ts with
  | .group .brace _ :: _ => some (richBlock g)
  | .lifetime _ :: _ => some (labeled g)
  | .ident w :: rest =>
    let behind : Ahead := .group .brace
    match w with
    | "if" => some (conditional g)
    | "while" => some (whileLoop g)
    | "for" => if beginsClosure ts then none else some (forLoop g)
    | "loop" => some do
      keyword "loop"
      richBlock g
    | "match" => some (matching g)
    | "try" => if behind rest then some do
        keyword "try"
        plainBlock g
      else none
    | "unsafe" => some do
      keyword "unsafe"
      richBlock g
    | "const" => if behind rest then some do
        keyword "const"
        richBlock g
      else none
    | _ => none
  | _ => none

/-- The first operand of an expression at the front of a statement or an arm, and whether operators
may follow. -/
def leadingOperand : Parser (Expr × Bool) := do
  match blockAtom g (← ahead) with
  | some p =>
    p
    if ← peek (.or (.butNot (.punct ".") (.punct "..")) (.punct "?")) then
      return (← trailers g .block, true)
    else return (.block, false)
  | none => return (← operandRule g true, true)

/-- An expression at the front of a statement or an arm. -/
def leadingRule (place : Leading) (attributes : List Tree) : Parser Expr := do
  let ((first, goesOn), front) ← captured (leadingOperand g)
  let (whole, behind) ← captured (if goesOn then operatorsRule g true .none first else pure first)
  let isRange := match place with
    | .statement => whole = .range
    | .arm => first = .range
  let dropped := !isRange && first = .verbatim
  write (attributed (if dropped then [] else attributes) isRange (front ++ behind))
  return whole

/-! ## Statements -/

/-- Words that begin an item, with what has to follow some of them. -/
def beginsItem : Ahead :=
  let after (w : String) (a : Ahead) : Ahead := .and (.keyword w) (.second a)
  let functionWord : Ahead := .anyKeyword ["unsafe", "extern", "fn"]
  .or (.anyKeyword
      ["pub", "extern", "use", "fn", "mod", "type", "struct", "enum", "trait", "impl", "macro"])
    (.or (.or (after "crate" fun ts => !Ahead.punct "::" ts)
        (after "static" (.or (.keyword "mut") (.butNot .ident
          (.and (.keyword "async") (.second (.or (.keyword "move") (.punct "|"))))))))
      (.or (.or (after "const" fun ts => !(Ahead.group .brace ts
            || Ahead.anyKeyword ["static", "move"] ts || Ahead.punct "|" ts
            || (Ahead.keyword "async" ts && !(Ahead.second functionWord) ts)))
          (after "unsafe" fun ts => !Ahead.group .brace ts))
        (.or (.or (after "async" functionWord) (after "union" .ident))
          (.or (after "auto" (.keyword "trait"))
            (after "default" (.anyKeyword ["unsafe", "impl"]))))))

/-- What a statement is by the macro that it begins with. -/
inductive MacroStart
  /-- It defines something, as `macro_rules! name` does. -/
  | definition
  /-- It is a call in braces, and nothing goes on behind it. -/
  | statement

/-- Whether a macro begins here that is not an expression. -/
def macroStart : Parser (Option MacroStart) := do
  let start ← lookahead do
    let _ ← plainPath
    let ts ← ahead
    if Ahead.punct "!" ts then
      if (Ahead.second (.or .ident (.keyword "try"))) ts then return some .definition
      let goesOn : Ahead := .or (.butNot (.punct ".") (.punct "..")) (.punct "?")
      if (Ahead.second (.group .brace)) ts && !(Ahead.third goesOn) ts then
        return some .statement
    return none
  return start.join

/-- The last tree that was read is a group in braces. -/
def endsInBrace : Parser Bool := do
  match (← get).written with
  | .group .brace _ :: _ => return true
  | _ => return false

/-- A `let` statement. A value that ends in a brace has no `else`. -/
def letStatement : Parser Unit := do
  keyword "let"
  let _ ← g.pattern
  if ← optPunct ":" then
    let _ ← g.type true
  if ← optPunct "=" then
    let _ ← g.expression true
    if !(← endsInBrace) && (← peek (.keyword "else")) then
      keyword "else"
      plainBlock g
  punct ";"

/-- A statement. The answer tells whether a semicolon is missing, so that it has to be the last. -/
def statement : Parser Bool := do
  let start ← get
  let (attributes, copy) ← captured (outerAttributes g)
  let front : Front := ⟨start, attributes⟩
  let ts ← ahead
  match ← macroStart with
  | some .statement =>
    write copy
    let _ ← plainPath
    punct "!"
    let _ ← anyGroup
    let _ ← optPunct ";"
    return false
  | some .definition =>
    write copy
    let _ ← g.item front
    return false
  | none =>
    if Ahead.keyword "let" ts then
      write copy
      letStatement g
      return false
    else if beginsItem ts then
      write copy
      let _ ← g.item front
      return false
    else
      let e ← g.leading .statement copy
      if ← optPunct ";" then return false
      return match e with
        | .block => false
        | .invocation braced => !braced
        | _ => true

/-- The statements of a block. -/
def statementsRule : Parser Unit := do
  let _ ← many do
    let _ ← manyWhile (.punct ";") (punct ";")
    if ← peek .atEnd then return none
    let missing ← statement g
    if missing && !(← peek .atEnd) then reject .statementEnd
    return some ()

end Rules

end ClientTraits.Rust
