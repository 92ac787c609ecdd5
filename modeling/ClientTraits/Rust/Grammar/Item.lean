import ClientTraits.Rust.Grammar.Expression

/-!
# Items

Traits and modules are kept, everything else is only checked. A member of a trait with a visibility
or with the word `default` is no method, though its grammar allows it. Attributes at the front of
the body of a trait or a method belong to it as those before it do.

Some items can be written down but mean nothing, such as a function without a body outside of a
trait. They have no normal form. The parser of an item that may be one of them answers with `true`
if it is.
-/

namespace ClientTraits.Rust

namespace Rules

open ClientTraits.Rust.Parser

variable (g : Rules)

/-- Whether an item is visible, and whether by a plain `pub`. -/
inductive Visibility
  | inherited
  | plain
  | restricted
  deriving DecidableEq

/-- The restriction of a `pub`, in parentheses. A parenthesis that is none stays where it is. -/
def restriction : Parser Unit :=
  group .parenthesis do
    if ← optKeyword "in" then
      let _ ← plainPath
    else if ← peek (.and (.anyKeyword ["crate", "self", "super"]) (.second .atEnd)) then advance 1
    else fail (.token "crate")

/-- A visibility. -/
def visibility : Parser Visibility := do
  if ← optKeyword "pub" then
    if (← attempt restriction).isSome then return .restricted else return .plain
  else return .inherited

/-! ## Functions -/

/-- What the words before a function tell. -/
structure FunctionWords where
  isAsync : Bool
  isSafe : Bool

/-- The words before a function, up to its `fn`. A foreign function may be declared `safe`. -/
def functionWords (allowSafe : Bool) : Parser FunctionWords := do
  let _ ← optKeyword "const"
  let isAsync ← optKeyword "async"
  let isSafe ← if allowSafe then optKeyword "safe" else pure false
  if !isSafe then
    let _ ← optKeyword "unsafe"
  optAbi
  keyword "fn"
  return ⟨isAsync, isSafe⟩

/-- A function begins here. -/
def beginsFunction (allowSafe : Bool) : Parser Bool := do
  return (← lookahead (functionWords allowSafe)).isSome

/-- The receiver of a method. A path that begins with `self` is none. -/
def receiver : Parser Unit := do
  let byRef ← optPunct "&"
  if byRef then optLifetime
  let _ ← optKeyword "mut"
  keyword "self"
  if ← peek (.punct "::") then fail (.construct "input")
  if !byRef && (← optPunct ":") then
    let _ ← g.type true

/-- An input of a function, or the `...` in its place. Of an input without a name, as old texts have
it, only the type is there; its normal form has `_` for the name. -/
def functionInput (isFirst : Bool) : Parser (Option Input) := do
  let attributes ← outerAttributes g
  if ← optPunct "..." then return none
  if (← attempt (receiver g)).isSome then
    if isFirst then return some (.receiver attributes) else fail (.construct "input")
  if ← peek (.and .ident (.second (.punct "<"))) then
    write [.ident "_", .punct ':' false]
    return some (.typed attributes .other (← wholeType g))
  let pattern ← g.pattern
  punct ":"
  if ← optPunct "..." then return none
  return some (.typed attributes pattern (← wholeType g))

/-- The inputs of a function behind the first one. Behind `...` there are no more. -/
def furtherInputs : Parser (List Input) :=
  many do
    if ← peek .atEnd then return none
    punct ","
    if ← peek .atEnd then return none
    match ← functionInput g false with
    | some input => return some input
    | none =>
      if !(← peek .atEnd) then punct ","
      return none

/-- The inputs of a function. Only the first of them may be a receiver. -/
def functionInputs : Parser (List Input) := do
  if ← peek .atEnd then return []
  match ← functionInput g true with
  | some input => return input :: (← furtherInputs g)
  | none =>
    if !(← peek .atEnd) then punct ","
    return []

/-- The head of a function behind its first words, without its attributes. -/
def functionHead (words : FunctionWords) : Parser Function := do
  let name ← ident
  let _ ← generics g
  let inputs ← group .parenthesis (functionInputs g)
  let output ← if ← optPunct "->" then pure (some (← wholeType g)) else pure none
  let _ ← whereClause g
  return ⟨[], name, words.isAsync, inputs, output⟩

/-- The body of a function, or a semicolon in its place. The answer is the attributes at the front
of the body if there is one. -/
def functionBody : Parser (Option (List Attribute)) := do
  if ← peek (.group .brace) then
    return some (← group .brace (blockBody g))
  else
    punct ";"
    return none

/-- A function outside of a trait. -/
def functionItem : Parser Bool := do
  let _ ← functionHead g (← functionWords false)
  return (← functionBody g).isNone

/-! ## Constants, types and macros -/

/-- A name or `_`. -/
def nameOrBlank : Parser String := do
  if ← peek (.keyword "_") then word else ident

/-- A value behind an `=` if there is one, and whether there is one. -/
def optValueOf : Parser Bool := do
  if ← optPunct "=" then
    let _ ← g.expression true
    return true
  else return false

/-- A constant. Generic parameters and conditions are not for constants, and only in a trait it may
lack a value. -/
def constant (needsValue : Bool) : Parser Bool := do
  keyword "const"
  let _ ← nameOrBlank
  let parameters ← generics g
  punct ":"
  let _ ← g.type true
  let valued ← optValueOf g
  let clause ← whereClause g
  punct ";"
  return parameters || clause || (needsValue && !valued)

/-- Where the conditions of a type alias may stand. -/
structure AliasRules where
  clauseBefore : Bool
  clauseBehind : Bool

/-- What a type alias has. -/
structure AliasParts where
  colon : Bool
  definition : Bool

/-- It is the definition of a type, and no more. -/
def AliasParts.isPlain (p : AliasParts) : Bool :=
  !p.colon && p.definition

/-- A type alias or an associated type. -/
def typeAlias (rules : AliasRules) : Parser AliasParts := do
  keyword "type"
  let _ ← ident
  let _ ← generics g
  let stop : Ahead := .or (.keyword "where") (.anyPunct ["=", ";"])
  let (colon, _) ← optBounds (separated "+" stop (g.bound .constraint))
  let before ← if rules.clauseBefore then whereClause g else pure false
  let definition ← optPunct "="
  if definition then
    let _ ← g.type true
  if rules.clauseBehind && !before then
    let _ ← whereClause g
  punct ";"
  return ⟨colon, definition⟩

/-- A macro as an item: a path, `!`, perhaps a name, and a group. In braces it needs no
semicolon. -/
def macroItem (allowName : Bool) : Parser Unit := do
  let _ ← plainPath
  punct "!"
  if allowName && (← peek (.or .ident (.keyword "try"))) then advance 1
  let d ← anyGroup
  if d ≠ .brace then punct ";"

/-- What a macro begins with. -/
def beginsMacro : Ahead :=
  .or (.or .ident (.anyKeyword ["self", "super", "crate"])) (.punct "::")

/-! ## Traits -/

/-- A member of a trait. One that is marked by a visibility or a `default` has no normal form. -/
def traitMember : Parser Member := do
  let start ← get
  let attributes ← outerAttributes g
  let v ← visibility
  let marked := (← optKeyword "default") || v ≠ .inherited
  if ← beginsFunction false then
    let f ← functionHead g (← functionWords false)
    let attributes := attributes ++ (← functionBody g).getD []
    if !marked then return .method { f with attributes := attributes }
    copySince start
    return .other attributes
  let ts ← ahead
  let odd ← if Ahead.keyword "const" ts then constant g false
    else if Ahead.keyword "type" ts then
      let _ ← typeAlias g ⟨false, true⟩
      pure false
    else if !marked && beginsMacro ts then
      macroItem false
      pure false
    else fail (.token "fn")
  if marked || odd then copySince start
  return .other attributes

/-- A trait or a trait alias behind its `trait`. -/
def traitTail (attributes : List Attribute) (v : Visibility) (allowAlias : Bool) : Parser Item := do
  let name ← ident
  let _ ← generics g
  let (colon, bounds) ← optBounds
    (separated "+" (.or (.keyword "where") (.group .brace)) (g.bound .constraint))
  if allowAlias && !colon && (← optPunct "=") then
    let _ ← separated "+" (.or (.keyword "where") (.punct ";")) (g.bound .object)
    let _ ← whereClause g
    punct ";"
    return .other
  let _ ← whereClause g
  let (inner, members) ← group .brace do
    let inner ← innerAttributes g
    let members ← manyUntil .atEnd (traitMember g)
    return (inner, members)
  return .definition ⟨attributes ++ inner, v = .plain, name, bounds, members⟩

/-! ## Other items -/

/-- The words before fields that stand in the place of a type. -/
def beginsFields : Ahead :=
  .or (.keyword "struct") (.and (.keyword "union") (.second (.group .brace)))

/-- A field of a struct with names. One without a name, called `_`, may have fields of its own in
the place of its type. -/
def namedField : Parser Unit := do
  let _ ← outerAttributes g
  let _ ← visibility
  let unnamed ← peek (.keyword "_")
  let _ ← nameOrBlank
  punct ":"
  if unnamed && (← peek beginsFields) then verbatim do
    advance 1
    g.fields
  else
    let _ ← g.type true

/-- The fields of a struct with names. -/
def namedFields : Parser Unit := do
  let _ ← group .brace (commaList (namedField g))

/-- The fields of a struct without names. -/
def plainFields : Parser Unit := do
  let _ ← group .parenthesis (commaList do
    let _ ← outerAttributes g
    let _ ← visibility
    let _ ← g.type true)

/-- A struct behind its name and its parameters. -/
def structTail : Parser Unit := do
  let clause ← whereClause g
  let ts ← ahead
  if !clause && Ahead.group .parenthesis ts then
    plainFields g
    let _ ← whereClause g
    punct ";"
  else if Ahead.group .brace ts then namedFields g
  else punct ";"

/-- A variant of an enumeration. A visibility is left out of the copy. -/
def variant : Parser Unit := do
  let _ ← outerAttributes g
  let _ ← unwritten visibility
  let _ ← ident
  let ts ← ahead
  if Ahead.group .brace ts then namedFields g
  else if Ahead.group .parenthesis ts then plainFields g
  let _ ← optValueOf g

/-- A tree of a `use`. Below the first level of a path it does not begin with `::`. -/
def useTreeRule (allowRoot : Bool) : Parser Bool := do
  let ts ← ahead
  if (Ahead.or .ident (.anyKeyword ["self", "super", "crate", "try"])) ts then
    advance 1
    if ← optPunct "::" then return ← g.useTree false
    if ← optKeyword "as" then
      let _ ← nameOrBlank
    return false
  else if Ahead.punct "*" ts then
    punct "*"
    return false
  else if Ahead.group .brace ts then
    let roots ← group .brace (commaList do
      let root ← if allowRoot then optPunct "::" else pure false
      return (← g.useTree (allowRoot && !root)) || root)
    return roots.any id
  else fail (.construct "identifier")

/-- A member of an `impl`. -/
def implMember : Parser Unit := do
  let start ← get
  let _ ← outerAttributes g
  let v ← visibility
  let marking : Ahead := .and (.keyword "default") (.second fun ts => !Ahead.punct "!" ts)
  let marked ← if ← peek marking then optKeyword "default" else pure false
  let ts ← ahead
  let odd ← if ← beginsFunction false then functionItem g
    else if Ahead.keyword "const" ts then constant g true
    else if Ahead.keyword "type" ts then pure !(← typeAlias g ⟨false, true⟩).isPlain
    else if v = .inherited && !marked && beginsMacro ts then
      macroItem false
      pure false
    else fail (.token "fn")
  if odd then copySince start

/-- What is implemented is named by a path, as a trait is. -/
def traitPath : Parser Bool := do
  let qualified ← peek (.punct "<")
  match ← g.type true with
  | .path _ _ _ => return !qualified
  | _ => return false

/-- An `impl`. -/
def implementation (v : Visibility) : Parser Bool := do
  let _ ← optKeyword "default"
  let _ ← optKeyword "unsafe"
  keyword "impl"
  if ← peek beginsGenerics then
    let _ ← generics g
  let isConst ← peek (.or (.keyword "const") (.and (.punct "?") (.second (.keyword "const"))))
  if isConst then
    let _ ← optPunct "?"
    keyword "const"
  let negative ← peek (.and (.punct "!") (.second fun ts => !Ahead.group .brace ts))
  if negative then punct "!"
  let named ← traitPath g
  let ofTrait ← optKeyword "for"
  if ofTrait then
    let _ ← g.type true
  else if negative then fail (.token "for")
  let _ ← whereClause g
  group .brace do
    let _ ← innerAttributes g
    let _ ← manyUntil .atEnd (implMember g)
  return v ≠ .inherited || isConst || (ofTrait && !named)

/-- A foreign function. It has no body, and whether calls of it are safe is not said. -/
def foreignFunction : Parser Bool := do
  let words ← functionWords true
  let _ ← functionHead g words
  return words.isSafe || (← functionBody g).isSome

/-- A foreign item. -/
def foreignItem : Parser Unit := do
  let start ← get
  let _ ← outerAttributes g
  let v ← visibility
  let ts ← ahead
  let static_ : Ahead := .keyword "static"
  let safety : Ahead := .and (.anyKeyword ["unsafe", "safe"]) (.second static_)
  let odd ← if ← beginsFunction true then foreignFunction g
    else if static_ ts || safety ts then
      if safety ts then advance 1
      keyword "static"
      let _ ← optKeyword "mut"
      let _ ← ident
      punct ":"
      let _ ← g.type true
      let valued ← optValueOf g
      punct ";"
      pure (safety ts || valued)
    else if Ahead.keyword "type" ts then
      let parts ← typeAlias g ⟨true, true⟩
      pure (parts.colon || parts.definition)
    else if v = .inherited && beginsMacro ts then
      macroItem false
      pure false
    else fail (.token "fn")
  if odd then copySince start

/-- A block of foreign items. It has no visibility. -/
def foreignBlock (v : Visibility) : Parser Unit := do
  if v ≠ .inherited then fail (.token "extern")
  let _ ← optKeyword "unsafe"
  optAbi
  group .brace do
    let _ ← innerAttributes g
    let _ ← manyUntil .atEnd (foreignItem g)

/-- An item that is foreign or a crate that is named. -/
def foreignTail (v : Visibility) : Parser Unit := do
  if ← peek (.second (.keyword "crate")) then
    advance 2
    if ← peek (.keyword "self") then advance 1
    else
      let _ ← ident
    if ← optKeyword "as" then
      let _ ← nameOrBlank
    punct ";"
  else foreignBlock g v

/-- A variable that lives as long as the program. It has a type and a value. -/
def staticItem : Parser Bool := do
  keyword "static"
  let _ ← optKeyword "mut"
  let _ ← ident
  let typed := !(← peek (.punct "="))
  if typed then
    punct ":"
    let _ ← g.type true
  let valued ← optValueOf g
  punct ";"
  return !(typed && valued)

/-- A module, with its items or without. -/
def moduleItem : Parser Item := do
  let _ ← optKeyword "unsafe"
  keyword "mod"
  if ← peek (.keyword "try") then advance 1
  else
    let _ ← ident
  if ← optPunct ";" then return .other
  group .brace do
    let _ ← innerAttributes g
    let items ← manyUntil .atEnd do
      let start ← get
      g.item ⟨start, ← outerAttributes g⟩
    return .module items

/-- A definition of a macro by `macro`. -/
def macroDefinition : Parser Unit := do
  keyword "macro"
  let _ ← ident
  if ← peek (.group .parenthesis) then
    let _ ← anyGroup
  if ← peek (.group .brace) then
    let _ ← anyGroup
  else fail (.token "\x7b")

/-- An item that is not kept, by the trees that it begins with. -/
def plainItem (v : Visibility) (ts : List Tree) : Option (Parser Bool) :=
  let normal (p : Parser Unit) : Option (Parser Bool) := some do
    p
    return false
  match ts with
  | .ident "extern" :: _ => normal (foreignTail g v)
  | .ident "use" :: _ => some do
    keyword "use"
    let root ← optPunct "::"
    let roots ← g.useTree (!root)
    punct ";"
    return roots
  | .ident "static" :: _ => some (staticItem g)
  | .ident "const" :: _ => some (constant g true)
  | .ident "type" :: _ => some do
    return !(← typeAlias g ⟨true, false⟩).isPlain
  | .ident "struct" :: _ => normal do
    keyword "struct"
    let _ ← ident
    let _ ← generics g
    structTail g
  | .ident "enum" :: _ => normal do
    keyword "enum"
    let _ ← ident
    let _ ← generics g
    let _ ← whereClause g
    let _ ← group .brace (commaList (variant g))
  | .ident "union" :: rest =>
    if Ahead.ident rest then normal do
      advance 1
      let _ ← ident
      let _ ← generics g
      let _ ← whereClause g
      namedFields g
    else none
  | .ident "unsafe" :: .ident "extern" :: _ => normal (foreignBlock g v)
  | .ident "unsafe" :: .ident "impl" :: _ => some (implementation g v)
  | .ident "impl" :: _ => some (implementation g v)
  | .ident "default" :: rest => if Ahead.punct "!" rest then none else some (implementation g v)
  | .ident "macro" :: _ => some do
    macroDefinition
    return true
  | _ => none

/-- An item that is kept, by the trees that it begins with. -/
def keptItem (attributes : List Attribute) (v : Visibility) (ts : List Tree) :
    Option (Parser Item) :=
  let definition (words : Nat) (allowAlias : Bool) : Option (Parser Item) := some do
    advance words
    traitTail g attributes v allowAlias
  match ts with
  | .ident "trait" :: _ => definition 1 true
  | .ident "auto" :: .ident "trait" :: _ => definition 2 false
  | .ident "unsafe" :: .ident "trait" :: _ => definition 2 false
  | .ident "unsafe" :: .ident "auto" :: .ident "trait" :: _ => definition 3 false
  | .ident "mod" :: _ => some (moduleItem g)
  | .ident "unsafe" :: .ident "mod" :: _ => some (moduleItem g)
  | _ => none

/-- An item behind its attributes. -/
def itemRule (front : Front) : Parser Item := do
  let v ← visibility
  let ts ← ahead
  let plain ← if ← beginsFunction false then pure (some (functionItem g))
    else pure (plainItem g v ts)
  match plain, keptItem g front.attributes v ts with
  | some p, _ =>
    if ← p then copySince front.start
    return .other
  | none, some p => p
  | none, none =>
    if v = .inherited && beginsMacro ts then
      macroItem true
      return .other
    else fail (.construct "item")

end Rules

end ClientTraits.Rust
