import ClientTraits.Annotation.Helper
import ClientTraits.Rust.TypeText

/-!
# Reading declarations off traits

A trait becomes an interface: its own attributes give headers and timeouts, its bounds name the
interfaces it extends, and each method becomes a method with what its attributes and those of its
parameters say. Attributes that are no helpers are passed over. `Trait.stripped` is the trait
without its helper attributes.
-/

namespace ClientTraits

namespace Rust

mutual

/-- The type is a future: `impl` or `dyn` with the bound `Future`, a boxed future by name, or such
a type in parentheses or inside of `Pin` or `Box`. -/
def TypeShape.isFuture : TypeShape → Bool
  | .bounded bounds => bounds.contains (.named "Future")
  | .grouped t => t.isFuture
  | .path last _ arguments =>
    if last == "BoxFuture" || last == "LocalBoxFuture" then true
    else if last == "Pin" || last == "Box" then anyFuture arguments
    else false
  | .other => false

/-- One of the types is a future. -/
def anyFuture : List TypeShape → Bool
  | [] => false
  | t :: rest => t.isFuture || anyFuture rest

end

/-- An `async fn`, or a function that returns a future. -/
def Function.isAsynchronous (f : Function) : Bool :=
  f.isAsync || f.output.any fun t => t.shape.isFuture

/-- The attributes without the given helpers. -/
def withoutHelpers (helpers : List String) (attributes : List Attribute) : List Attribute :=
  attributes.filter fun a => !helpers.any a.hasName

/-- An input without its helper attributes. A receiver has none. -/
def Input.stripped : Input → Input
  | receiver attributes => receiver attributes
  | typed attributes pattern type => typed (withoutHelpers Helper.ofParam attributes) pattern type

/-- A method without its helper attributes and those of its parameters. -/
def Function.stripped (f : Function) : Function :=
  { f with
    attributes := withoutHelpers Helper.ofMethod f.attributes
    inputs := f.inputs.map Input.stripped }

/-- A member without helper attributes, if it is a method. -/
def Member.stripped : Member → Member
  | method f => method f.stripped
  | other attributes => other attributes

/-- A trait without helper attributes. -/
def Trait.stripped (t : Trait) : Trait :=
  { t with
    attributes := withoutHelpers Helper.ofTrait t.attributes
    members := t.members.map Member.stripped }

mutual

/-- The traits of an item, in their order. -/
def Item.traits : Item → List Trait
  | .definition t => [t]
  | .module items => itemsTraits items
  | .other => []

/-- The traits of items and of the modules among them, in their order. -/
def itemsTraits : List Item → List Trait
  | [] => []
  | i :: rest => i.traits ++ itemsTraits rest

end

end Rust

open Rust

/-- What an attribute of a trait adds to its settings. -/
def Shared.annotate (s : Shared) (a : Attribute) : Except AnnotationError Shared := do
  if a.hasName "header" then return { s with headers := s.headers ++ [← Helper.header a] }
  else if a.hasName "headers" then return { s with headers := s.headers ++ (← Helper.headers a) }
  else if a.hasName "timeout" then
    return { s with timeouts := s.timeouts.merge (← Helper.timeouts a) }
  else return s

/-- What an attribute of a method adds to it. -/
def Method.annotate (m : Method) (a : Attribute) : Except AnnotationError Method := do
  match a.name? with
  | none => return m
  | some "request" => return { m with routes := m.routes ++ [← Helper.genericRoute a] }
  | some "header" => return { m with headers := m.headers ++ [← Helper.header a] }
  | some "headers" => return { m with headers := m.headers ++ (← Helper.headers a) }
  | some "query" => return { m with queries := m.queries ++ [← Helper.query a] }
  | some "queries" => return { m with queries := m.queries ++ (← Helper.queries a) }
  | some "timeout" => return { m with timeouts := m.timeouts.merge (← Helper.timeouts a) }
  | some name =>
    match Verb.ofShorthand? name with
    | some verb => return { m with routes := m.routes ++ [← Helper.shorthandRoute verb a] }
    | none => return m

/-- What an attribute of a parameter adds to it. Of several of one kind the last one counts. -/
def Param.annotate (p : Param) (a : Attribute) : Except AnnotationError Param := do
  if a.hasName "param" then return { p with rename := some (← Helper.rename a) }
  else if a.hasName "query" then return { p with query := some (← Helper.binding a) }
  else if a.hasName "attr" then return { p with context := some (← Helper.binding a) }
  else if a.hasName "body" then return { p with payload := some (← Helper.payloadMark a) }
  else return p

/-- The parameter of an input; a receiver is none. -/
def Param.ofInput : Input → Except AnnotationError (Option Param)
  | .receiver _ => return none
  | .typed attributes (.name ident) type =>
    return some (← attributes.foldlM Param.annotate (Param.plain ident type.shown))
  | .typed _ _ _ => throw .notIdentifier

/-- The parameters of inputs. -/
def Param.ofInputs : List Input → Except AnnotationError (List Param)
  | [] => return []
  | input :: rest => do
    let param ← Param.ofInput input
    let params ← Param.ofInputs rest
    return param.toList ++ params

/-- A method without settings. -/
def Method.bare (name : String) (isAsync : Bool) : Method :=
  ⟨name, isAsync, [], [], [], [], .unset⟩

/-- The declaration of a method. Its attributes are read before its parameters. -/
def Method.ofFunction (f : Function) : Except AnnotationError Method := do
  let m ← f.attributes.foldlM Method.annotate (Method.bare f.name f.isAsynchronous)
  let params ← Param.ofInputs f.inputs
  return { m with params := params }

/-- The declarations of the methods among the members of a trait. -/
def Method.ofMembers : List Member → Except AnnotationError (List Method)
  | [] => return []
  | .method f :: rest => do
    let m ← Method.ofFunction f
    let methods ← Method.ofMembers rest
    return m :: methods
  | .other _ :: rest => Method.ofMembers rest

/-- The declaration of a trait. It is a client if it carries the attribute `client`. -/
def Interface.ofTrait (t : Trait) : Except AnnotationError Interface := do
  let settings ← t.attributes.foldlM Shared.annotate ⟨[], .unset⟩
  let methods ← Method.ofMembers t.members
  return {
    name := t.name
    isClient := t.attributes.any fun a => a.hasName "client"
    headers := settings.headers
    timeouts := settings.timeouts
    parents := t.bounds.filterMap Bound.name?
    methods := methods }

/-- The declarations of all traits of a file, in source order. -/
def Interface.ofItems (items : List Item) : Except AnnotationError (List Interface) :=
  (itemsTraits items).mapM Interface.ofTrait

end ClientTraits
