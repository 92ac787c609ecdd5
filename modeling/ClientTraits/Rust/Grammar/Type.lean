import ClientTraits.Rust.Grammar.Rules

/-!
# Attributes, paths, bounds, generics and types

These contain each other: an argument of a path is a type, and a type is mostly a path. A path may
have a type in front of it, and parameters of generics have bounds, which are paths again. A type
keeps the last segment of its path and the bounds of its trait objects, because they tell whether
it is a future.

The normal form of a list in angle brackets has its lifetimes first. Parameters that are none, a
`where` without predicates and the colon of a parameter without bounds are left out of it.
-/

namespace ClientTraits.Rust

namespace Rules

open ClientTraits.Rust.Parser

variable (g : Rules)

/-! ## Attributes -/

/-- A path of words only: it may name a module or a macro, but has no arguments. -/
def plainPath : Parser (Bool × List String) := do
  let absolute ← optPunct "::"
  let segment : Ahead := .or .ident (.anyKeyword ["super", "self", "Self", "crate"])
  let first ← if ← peek segment then word else fail (.construct "identifier")
  let rest ← many do
    if ← optPunct "::" then
      if ← peek segment then return some (← word)
      else fail (.construct "path segment after `::`")
    else return none
  return (absolute, first :: rest)

/-- The path of an attribute. It may also be the word `unsafe`. -/
def attributePath : Parser (Bool × List String) := do
  if ← peek (.keyword "unsafe") then
    return (false, [← word])
  else plainPath

/-- The content of an attribute. The value behind an `=` is a literal or any other expression, but
does not begin with an attribute. -/
def attributeBody : Parser Attribute := do
  let (absolute, path) ← attributePath
  match ← ahead with
  | .group _ trees :: _ =>
    advance 1
    return ⟨absolute, path, .tokens trees⟩
  | ts =>
    if Ahead.punct "=" ts then
      punct "="
      if ← peek (.and (.punct "#") (.second (.group .bracket))) then fail (.construct "literal")
      let _ ← g.expression true
      return ⟨absolute, path, .value⟩
    else return ⟨absolute, path, .nothing⟩

/-- An attribute of what follows. -/
def outerAttribute : Parser Attribute := do
  punct "#"
  group .bracket (attributeBody g)

/-- The attributes of what follows. -/
def outerAttributes : Parser (List Attribute) :=
  manyWhile (.punct "#") (outerAttribute g)

/-- The attributes of what they stand in. -/
def innerAttributes : Parser (List Attribute) :=
  manyWhile (.and (.punct "#") (.second (.punct "!"))) do
    punct "#"
    punct "!"
    group .bracket (attributeBody g)

/-- The content of a block that may begin with attributes of its own. -/
def blockBody : Parser (List Attribute) := do
  let attributes ← innerAttributes g
  g.statements
  return attributes

/-! ## Lists in angle brackets -/

/-- An item of a list in angle brackets: its copy, and whether a comma follows. -/
structure AngleItem where
  isLifetime : Bool
  copy : List Tree
  comma : Bool

/-- The trees of an item and of its comma. -/
def AngleItem.trees (a : AngleItem) : List Tree :=
  if a.comma then a.copy ++ [.punct ',' false] else a.copy

/-- The items in normal form: lifetimes come first. -/
def lifetimesFirst (items : List AngleItem) : List Tree :=
  let (lifetimes, others) := items.partition (·.isLifetime)
  let open_ := match lifetimes.getLast?, others with
    | some last, _ :: _ => !last.comma
    | _, _ => false
  lifetimes.flatMap AngleItem.trees ++ (if open_ then [.punct ',' false] else []) ++
    others.flatMap AngleItem.trees

/-- A list in angle brackets. The parser of an item tells whether it is a lifetime. -/
def angleList {α : Type} (item : Parser (α × Bool)) : Parser (List α) := do
  punct "<"
  let items ← manyUntil (.punct ">") do
    let ((a, isLifetime), copy) ← captured item
    let comma ← if ← peek (.punct ">") then pure false else do
      unwritten (punct ",")
      pure true
    return (a, AngleItem.mk isLifetime copy comma)
  write (lifetimesFirst (items.map (·.2)))
  punct ">"
  return items.map (·.1)

/-! ## Arguments in angle brackets -/

/-- A constant among the arguments of a type: a literal, a name or a block. -/
def constArgument : Parser Unit := do
  let ts ← ahead
  if Ahead.literal ts then
    let _ ← literal
  else if Ahead.ident ts then advance 1
  else if Ahead.group .brace ts then
    let _ ← group .brace (blockBody g)
  else fail (.construct "constant")

/-- An argument in angle brackets. -/
inductive GenericArgument
  | lifetime
  | type (t : TypeShape)
  /-- A constant, or what an associated item is or satisfies. -/
  | other

/-- What an associated item is, behind the `=`. -/
def associatedValue : Parser Unit := do
  if ← peek (.or .literal (.group .brace)) then constArgument g
  else
    let _ ← g.type true

/-- One argument in angle brackets. -/
def genericArgument : Parser GenericArgument := do
  let ts ← ahead
  if Ahead.lifetime ts && !(Ahead.second (.punct "+")) ts then
    lifetime
    return .lifetime
  if (Ahead.or .literal (.group .brace)) ts then
    constArgument g
    return .other
  let t ← g.type true
  match t with
  | .path _ true _ =>
    if ← optPunct "=" then
      associatedValue g
      return .other
    if ← optPunct ":" then
      let _ ← plusList (.anyPunct [",", ">"]) (g.bound .constraint)
      return .other
    return .type t
  | _ => return .type t

/-- The argument is a lifetime. -/
def GenericArgument.isLifetime : GenericArgument → Bool
  | lifetime => true
  | _ => false

/-- The argument as a type. -/
def GenericArgument.type? : GenericArgument → Option TypeShape
  | type t => some t
  | _ => none

/-- Arguments in angle brackets, perhaps behind `::`. -/
def angleArguments : Parser (List GenericArgument) := do
  let _ ← optPunct "::"
  angleList do
    let argument ← genericArgument g
    return (argument, argument.isLifetime)

/-! ## Paths -/

/-- The arguments of a segment of a path. -/
inductive PathArguments
  | nothing
  /-- In angle brackets. -/
  | angle (arguments : List GenericArgument)

/-- A path. -/
structure Path where
  /-- Begins with a type in angle brackets. -/
  qualified : Bool
  absolute : Bool
  segments : List (String × PathArguments)

namespace Path

/-- The last segment. -/
def last (p : Path) : String × PathArguments :=
  p.segments.getLast?.getD ("", .nothing)

/-- No segment has arguments. -/
def isPlain (p : Path) : Bool :=
  p.segments.all fun
    | (_, .nothing) => true
    | _ => false

/-- The last segment has no arguments; it may have brackets for them. -/
def isOpen (p : Path) : Bool :=
  match p.last.2 with
  | .nothing => true
  | .angle arguments => arguments.isEmpty

/-- What is kept of a path that is a type. -/
def shape (p : Path) : TypeShape :=
  let start := !p.qualified && !p.absolute && p.segments.length == 1
  match p.last with
  | (last, .nothing) => .path last start []
  | (last, .angle arguments) => .path last start (arguments.filterMap GenericArgument.type?)

end Path

/-- A segment of a path. In an expression, arguments stand behind `::`, since `<` is an operator. -/
def segment (inExpression : Bool) : Parser (String × PathArguments) := do
  if ← peek (.anyKeyword ["super", "self", "crate", "try"]) then
    return (← word, .nothing)
  let name ← if ← peek (.keyword "Self") then word else ident
  let ts ← ahead
  let bare := !inExpression && Ahead.punct "<" ts && !Ahead.anyPunct ["<=", "<<="] ts
  if bare || (Ahead.punct "::" ts && (Ahead.third (.punct "<")) ts) then
    return (name, .angle (← angleArguments g))
  else return (name, .nothing)

/-- A path without a qualifying type. -/
def path (inExpression : Bool) : Parser Path := do
  let absolute ← optPunct "::"
  let first ← segment g inExpression
  let rest ← manyWhile (.butNot (.punct "::") (.third (.group .parenthesis))) do
    punct "::"
    segment g inExpression
  return ⟨false, absolute, first :: rest⟩

/-- A path, perhaps with a qualifying type: `<T as Trait>::Name`. -/
def qualifiedPath (inExpression : Bool) : Parser Path := do
  if ← peek (.punct "<") then
    punct "<"
    let _ ← g.type true
    if ← optKeyword "as" then
      let _ ← path g false
    punct ">"
    punct "::"
    let first ← segment g inExpression
    let rest ← manyWhile (.punct "::") do
      punct "::"
      segment g inExpression
    return ⟨true, false, first :: rest⟩
  else path g inExpression

/-- The output of a function. -/
def output (allowPlus : Bool) : Parser (Option TypeShape) := do
  if ← optPunct "->" then
    return some (← g.type allowPlus)
  else return none

/-- Leave punctuation at the end of the copy out of it. -/
def dropWrittenPunct : Parser Unit :=
  modify fun c => { c with written := c.written.dropWhile Tree.isPunct }

/-- The inputs and the output of a function trait behind its path, if there are any. Empty brackets
and a `::` before them are left out of the copy. -/
def optInputs (p : Path) : Parser Unit := do
  let call : Ahead := .group .parenthesis
  if p.isOpen && (← peek (.or call (.and (.punct "::") (.third call)))) then
    dropWrittenPunct
    let _ ← unwritten (optPunct "::")
    let _ ← group .parenthesis (commaList (g.type true))
    let _ ← output g false

/-! ## Bounds and generic parameters -/

/-- Bounds behind a colon if there is one, and whether there is one. A colon without bounds is left
out of the copy. -/
def optBounds {α : Type} (bounds : Parser (List α)) : Parser (Bool × List α) := do
  if !(← peek (.punct ":")) then return (false, [])
  let (bs, copy) ← captured do
    punct ":"
    bounds
  if !bs.isEmpty then write copy
  return (true, bs)

/-- A lifetime parameter with its bounds. -/
def lifetimeParam : Parser Unit := do
  lifetime
  let _ ← optBounds (plusList (.anyPunct [",", ">"]) lifetime)

/-- A type parameter with its bounds and its default. -/
def typeParam : Parser Unit := do
  let _ ← ident
  let _ ← optBounds (plusList (.anyPunct [",", ">", "="]) (g.bound .constraint))
  if ← optPunct "=" then
    let _ ← g.type true

/-- A constant parameter with its type and its default. -/
def constParam : Parser Unit := do
  keyword "const"
  let _ ← ident
  punct ":"
  let _ ← g.type true
  if ← optPunct "=" then constArgument g

/-- A generic parameter. The answer tells whether it is a lifetime. -/
def genericParam : Parser Bool := do
  let _ ← outerAttributes g
  let ts ← ahead
  if Ahead.lifetime ts then
    lifetimeParam
    return true
  else if Ahead.keyword "const" ts then constParam g
  else typeParam g
  return false

/-- What a type, a bound or a closure is quantified over. -/
def quantifier : Parser Unit := do
  keyword "for"
  punct "<"
  let _ ← separated "," (.punct ">") (genericParam g)
  punct ">"

/-- A quantifier if there is one. -/
def optQuantifier : Parser Bool := do
  if ← peek (.keyword "for") then
    quantifier g
    return true
  else return false

/-- Generic parameters in brackets if there are brackets. The answer tells whether there are. -/
def generics : Parser Bool := do
  if !(← peek (.punct "<")) then return false
  let (params, copy) ← captured <| angleList do
    let _ ← outerAttributes g
    if ← peek (.keyword "_") then
      advance 1
      return ((), false)
    return ((), ← genericParam g)
  if !params.isEmpty then write copy
  return true

/-- Generic parameters, and not a type that begins with `<`. -/
def beginsGenerics : Ahead :=
  let behindName : Ahead :=
    .or (.anyPunct [">", ",", "="]) (.butNot (.punct ":") (.punct "::"))
  .and (.punct "<") (.or (.second (.or (.anyPunct [">", "#"]) (.keyword "const")))
    (.and (.second (.or .lifetime .ident)) (.third behindName)))

/-- What ends the predicates of a `where` clause, and the bounds of each. -/
def endsClause : Ahead :=
  .or (.or .atEnd (.group .brace))
    (.or (.anyPunct [",", ";", "="]) (.butNot (.punct ":") (.punct "::")))

/-- A predicate of a `where` clause. -/
def predicate : Parser Unit := do
  if ← peek (.and .lifetime (.second (.punct ":"))) then
    lifetime
    punct ":"
    let _ ← plusList endsClause lifetime
  else
    let _ ← optQuantifier g
    let _ ← g.type true
    punct ":"
    let _ ← plusList endsClause (g.bound .constraint)

/-- A `where` clause if there is one. The answer tells whether there is. -/
def whereClause : Parser Bool := do
  if !(← peek (.keyword "where")) then return false
  let (predicates, copy) ← captured do
    keyword "where"
    if ← peek beginsGenerics then reject .noGenerics
    many do
      if ← peek endsClause then return none
      predicate g
      if !(← optPunct ",") && !(← peek endsClause) then fail (.token ",")
      return some ()
  if !predicates.isEmpty then write copy
  return true

/-- The constness of a bound, with brackets or without, if there is any. -/
def optConstness (place : BoundPlace) : Parser Bool := do
  let conditional ← peek (.group .bracket)
  let constant ← if conditional then
      group .bracket (keyword "const")
      pure true
    else optKeyword "const"
  if constant && !place.allowsConst then reject (.noConst conditional)
  return constant

/-- A bound by a trait. One that lifts a requirement is not quantified. -/
def traitBound (place : BoundPlace) : Parser Bound := do
  let quantified ← optQuantifier g
  let constant ← optConstness place
  let lifting ← optPunct "?"
  let quantified ← if lifting && !quantified then optQuantifier g else pure quantified
  let p ← path g false
  optInputs g p
  if lifting && quantified then reject .noBinder
  return if constant then .other else .named p.last.1

/-- The names that a type captures. -/
def capture : Parser Unit := do
  keyword "use"
  let _ ← angleList do
    let isLifetime ← peek .lifetime
    if isLifetime || (← peek (.or .ident (.keyword "Self"))) then advance 1
    else fail (.oneOf ["lifetime", "identifier", "`>`"])
    return ((), isLifetime)

/-- A bound. -/
def boundRule (place : BoundPlace) : Parser Bound := do
  let ts ← ahead
  if Ahead.lifetime ts then
    lifetime
    return .lifetime
  else if Ahead.keyword "use" ts then
    capture
    if !place.allowsCapture then reject .noCapture
    return .capture
  else
    let start ← get
    let b ← if Ahead.group .parenthesis ts then group .parenthesis (traitBound g place)
      else traitBound g place
    if b = .other then copySince start
    return b

/-- What a further bound may begin with. -/
def beginsBound (place : BoundPlace) : Ahead :=
  .or (.or (.or .word .lifetime) (.or (.anyPunct ["::", "?"]) (.group .parenthesis)))
    fun ts => place.allowsConst && Ahead.group .bracket ts

/-- Bounds behind each `+` that follows. Behind the last `+` there may be none. -/
def plusBounds (place : BoundPlace) : Parser (List Bound) :=
  many do
    if ← optPunct "+" then
      if ← peek (beginsBound place) then return some (← g.bound place) else return none
    else return none

/-- Bounds that are a type by themselves: one of them is a trait. -/
def typeBounds (place : BoundPlace) (allowPlus : Bool) : Parser TypeShape := do
  let first ← g.bound place
  let bs := first :: (← if allowPlus then plusBounds g place else pure [])
  if bs.all (fun b => b == .lifetime || b == .capture) then
    reject (if place = .impl then .implTrait else .objectTrait)
  return .bounded bs

/-- Bounds behind the first one of them. -/
def furtherBounds (first : Bound) : Parser TypeShape := do
  let rest ← manyWhile (.punct "+") do
    punct "+"
    g.bound .object
  return .bounded (first :: rest)

/-! ## Types -/

/-- The binary interface of a function if one is given. -/
def optAbi : Parser Unit := do
  if ← optKeyword "extern" then
    if ← peek .string then advance 1

/-- The word `self` behind `mut`. -/
def beginsChangingSelf : Ahead :=
  .and (.keyword "mut") (.second (.keyword "self"))

/-- An input of a function type, or the `...` in its place. The first input may be `self`; one that
is mutable has no normal form. The answer tells whether more inputs may follow. -/
def functionTypeInput (first : Bool) : Parser Bool := do
  let _ ← outerAttributes g
  let start ← get
  let name : Ahead := .or .ident (.keyword "_")
  let dots : Ahead := .punct "..."
  if ← peek (.or dots (.and name (.and (.second (.punct ":")) (.third dots)))) then
    if !(← peek dots) then advance 2
    punct "..."
    let _ ← optPunct ","
    return false
  let self : Ahead := fun ts => first && Ahead.keyword "self" ts
  let changing := first && beginsChangingSelf (← ahead)
  if changing then advance 1
  let onSelf ← peek self
  let named ← peek (.and (.or name self) (.second (.butNot (.punct ":") (.punct "::"))))
  if named then
    advance 1
    punct ":"
  let changed := first && !(named && onSelf) && beginsChangingSelf (← ahead)
  if changed then advance 2
  else if changing && !named then keyword "self"
  else
    let _ ← g.type true
  if changing || changed then copySince start
  return true

/-- The inputs of a function type. -/
def functionTypeInputs : Parser Unit := do
  if ← peek .atEnd then return
  if ← functionTypeInput g true then
    let _ ← many do
      if ← peek .atEnd then return none
      punct ","
      if ← peek .atEnd then return none
      if ← functionTypeInput g false then return some () else return none

/-- A function type. -/
def functionType : Parser TypeShape := do
  let _ ← optKeyword "unsafe"
  optAbi
  keyword "fn"
  group .parenthesis (functionTypeInputs g)
  let _ ← output g false
  return .other

/-- What a pair of parentheses in the place of a type holds. -/
inductive Parenthesized
  /-- A tuple. -/
  | tuple
  /-- A bound that is not the whole type. -/
  | bound (b : Bound)
  /-- A type, and the bound that it is if it can be one. -/
  | single (t : TypeShape) (asBound : Option Bound)

/-- The copy ends in a `+`. -/
def endsInPlus : Parser Bool := do
  match (← get).written with
  | .punct c _ :: _ => return c == '+'
  | _ => return false

/-- The content of parentheses in the place of a type. -/
def parenthesizedBody : Parser Parenthesized := do
  let ts ← ahead
  if Ahead.atEnd ts then return .tuple
  if Ahead.lifetime ts then return .single (← typeBounds g .object true) none
  if Ahead.punct "?" ts then return .bound (← traitBound g .object)
  let t ← g.type true
  let finished := !(← endsInPlus)
  if ← optPunct "," then
    let _ ← commaList (g.type true)
    return .tuple
  if (Ahead.or (.punct "<") (.anyKeyword ["dyn", "impl"])) ts then return .single t none
  return .single t <| match t with
    | .path last _ _ => some (.named last)
    | .bounded [b] => if finished then some b else none
    | _ => none

/-- Parentheses around nothing but parentheses at the end of the copy lose one of the two pairs. -/
def mergeParentheses : Parser Unit :=
  modify fun c => { c with
    written := match c.written with
      | .group .parenthesis [.group .parenthesis inner] :: before =>
        .group .parenthesis inner :: before
      | written => written }

/-- A type in parentheses, a tuple, or bounds that begin with one in parentheses. -/
def parenthesizedType (allowPlus : Bool) : Parser TypeShape := do
  match ← group .parenthesis (parenthesizedBody g) with
  | .tuple => return .other
  | .bound b => furtherBounds g b
  | .single t asBound =>
    match asBound with
    | some b =>
      if allowPlus && (← peek (.punct "+")) then
        mergeParentheses
        furtherBounds g b
      else return .grouped t
    | none => return .grouped t

/-- A type that begins with a path: the path itself, a macro, or bounds. The copy of the quantifier
in front of it is given, and a macro leaves it out. -/
def pathType (binder : List Tree) (allowPlus : Bool) : Parser TypeShape := do
  let (p, copy) ← captured (qualifiedPath g false)
  if !p.qualified && p.isPlain && (← peek (.butNot (.punct "!") (.punct "!="))) then
    write copy
    punct "!"
    let _ ← anyGroup
    return .other
  write (binder ++ copy)
  if p.qualified then return p.shape
  let first := Bound.named p.last.1
  if !allowPlus then
    return if binder.isEmpty then p.shape else .bounded [first]
  if binder.isEmpty && !(← peek (.punct "+")) then return p.shape
  return .bounded (first :: (← plusBounds g .object))

/-- What something built in begins with. -/
def beginsBuiltIn : Ahead :=
  .and (.keyword "builtin") (.second (.punct "#"))

/-- Something built in: its name, and anything in parentheses. -/
def builtIn : Parser Unit := do
  advance 2
  let _ ← ident
  if !(← peek (.group .parenthesis)) then fail (.construct Delimiter.parenthesis.name)
  advance 1

/-- What may follow a quantifier in front of a type. -/
def beginsQuantified : Ahead :=
  .or .ident (.anyKeyword ["fn", "unsafe", "extern", "super", "self", "Self", "crate"])

/-- What a type that is a path begins with. -/
def beginsPath : Ahead :=
  .or (.or .ident (.anyKeyword ["super", "self", "Self", "crate"])) (.anyPunct ["::", "<"])

/-- The names of what may follow a quantifier in front of a type. -/
def quantifiedBeginnings : List String :=
  ["identifier", "`fn`", "`unsafe`", "`extern`", "`super`", "`self`", "`Self`", "`crate`"]

/-- The names of what a type may begin with. -/
def typeBeginnings : List String :=
  ["`for`", "parentheses", "`fn`", "`unsafe`", "`extern`", "identifier", "`::`", "`<`", "`dyn`",
   "square brackets", "`*`", "`&`", "`!`", "`impl`", "`_`", "lifetime"]

/-- A type. -/
def typeRule (allowPlus : Bool) : Parser TypeShape := do
  let start ← get
  let (quantified, binder) ← captured (optQuantifier g)
  if quantified && !(← peek beginsQuantified) then fail (.oneOf quantifiedBeginnings)
  let ts ← ahead
  if beginsBuiltIn ts then
    builtIn
    copySince start
    return .other
  else if beginsPath ts then return ← pathType g binder allowPlus
  write binder
  if Ahead.group .parenthesis ts then parenthesizedType g allowPlus
  else if Ahead.anyKeyword ["fn", "unsafe", "extern"] ts then functionType g
  else if Ahead.keyword "dyn" ts then
    keyword "dyn"
    if ← optPunct "*" then
      let _ ← typeBounds g .object allowPlus
      copySince start
      return .other
    typeBounds g .object allowPlus
  else if Ahead.group .bracket ts then
    group .bracket do
      let _ ← g.type true
      if ← optPunct ";" then
        let _ ← g.expression true
    return .other
  else if Ahead.punct "*" ts then
    punct "*"
    if ← peek (.anyKeyword ["const", "mut"]) then advance 1 else fail (.oneOf ["`const`", "`mut`"])
    let _ ← g.type false
    return .other
  else if Ahead.punct "&" ts then
    punct "&"
    optLifetime
    let _ ← optKeyword "mut"
    let _ ← g.type false
    return .other
  else if Ahead.punct "!" ts then
    punct "!"
    return .other
  else if Ahead.keyword "impl" ts then
    keyword "impl"
    typeBounds g .impl allowPlus
  else if Ahead.keyword "_" ts then
    advance 1
    return .other
  else if Ahead.lifetime ts then typeBounds g .object true
  else fail (.oneOf typeBeginnings)

/-- A type with its tokens. -/
def wholeType : Parser RustType := do
  let (shape, copy) ← captured (g.type true)
  write copy
  return ⟨shape, copy⟩

end Rules

end ClientTraits.Rust
