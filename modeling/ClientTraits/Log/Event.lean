import ClientTraits.Declaration.Basic
import ClientTraits.Text.Digit

/-!
# Events of a run

What a run has to say beside its result. Each event is a value; its `entry` fixes the level, the
source, the wording and the named fields under which it is logged. `Logged` is a result together
with the events on the way to it.
-/

namespace ClientTraits

/-- How much an event matters. -/
inductive Level
  | debug
  | info
  | warning
  | error
  deriving DecidableEq, Repr

/-- The written form of a level. -/
def Level.name : Level → String
  | debug => "DEBUG"
  | info => "INFO"
  | warning => "WARN"
  | error => "ERROR"

/-- The value of a field. -/
inductive LogField
  | text (s : String)
  | count (n : Nat)
  deriving DecidableEq, Repr

/-- The text of a field's value. -/
def LogField.shown : LogField → String
  | text s => s
  | count n => toString n

/-- An entry of the log. -/
structure LogEntry where
  level : Level
  /-- The part of the program that speaks. -/
  source : String
  message : String
  fields : List (String × LogField)
  deriving DecidableEq, Repr

/-- The entry is shown to a reader who did not ask for details. -/
def LogEntry.isShown (e : LogEntry) : Bool :=
  e.level != .debug

/-- The character commands the terminal that it is shown on. -/
def isCommand (c : Char) : Bool :=
  c ∈ ['\x07', '\x08', '\x0c', '\x1b', '\x7f'] || (0x80 ≤ c.toNat && c.toNat ≤ 0x9F)

/-- A character of a message as it is shown: a command by its number. -/
def shownInMessage (c : Char) : List Char :=
  let digits := Text.hexChars c.toNat
  if !isCommand c then [c]
  else if c.toNat ≥ 0x80 then ['\\', 'u', '\x7b'] ++ digits ++ ['\x7d']
  else ['\\', 'x'] ++ (if digits.length < 2 then '0' :: digits else digits)

/-- The text of a message as it is shown, without commands. -/
def shownMessage (s : String) : String :=
  String.ofList (s.toList.flatMap shownInMessage)

/-- An entry as it is shown. -/
def LogEntry.line (e : LogEntry) : String :=
  e.level.name ++ " " ++ e.source ++ ": " ++ shownMessage e.message ++
    String.join (e.fields.map fun (name, value) => " " ++ name ++ "=" ++ value.shown)

/-- Something worth telling. -/
inductive Event
  /-- A method has several routes; all but the chosen one are ignored. -/
  | severalRoutes (method : String) (chosen : Verb) (ignored : Nat)
  /-- A method marks several parameters as payload; all but the first are ignored. -/
  | severalPayloads (method payload : String) (ignored : Nat)
  /-- An interface extends one that is not declared. -/
  | undeclaredParent (child parent : String)
  /-- A method is reached again, on another path. -/
  | recordedAgain (root : String) (signature : Signature)
  /-- A root is resolved. -/
  | resolved (root : String) (interfaces endpoints failures : Nat)
  /-- A source file is read. -/
  | fileRead (file : String) (traits : Nat)
  /-- A source file declares a trait that was declared before. -/
  | redeclared (file name : String)
  /-- The source files are found. -/
  | filesFound (count : Nat)
  /-- Something of a root failed. -/
  | failed (root message : String)
  /-- A method of a root is reached on several paths. -/
  | reachedAgain (root : String) (signature : Signature)
  /-- The report is written. -/
  | written (endpoints clients : Nat) (file : String)
  deriving DecidableEq, Repr

/-- How an event is logged. -/
def Event.entry : Event → LogEntry
  | severalRoutes method chosen ignored =>
    ⟨.warning, "reqspec_resolve::collect",
      "multiple route annotations, using the highest-precedence one",
      [("method", .text method), ("chosen", .text chosen.token), ("ignored", .count ignored)]⟩
  | severalPayloads method payload ignored =>
    ⟨.warning, "reqspec_resolve::collect", "multiple #[body] parameters, using the first",
      [("method", .text method), ("body", .text payload), ("ignored", .count ignored)]⟩
  | undeclaredParent child parent =>
    ⟨.debug, "reqspec_resolve::hierarchy", "supertrait has no declaration, skipping",
      [("ty", .text child), ("supertrait", .text parent)]⟩
  | recordedAgain root signature =>
    ⟨.warning, "reqspec_resolve::report",
      "method reached through more than one inheritance path, recording it again",
      [("root", .text root), ("signature", .text signature.shown)]⟩
  | resolved root interfaces endpoints failures =>
    ⟨.debug, "reqspec_resolve::hierarchy", "resolved client type",
      [("root", .text root), ("types", .count interfaces), ("specs", .count endpoints),
       ("failures", .count failures)]⟩
  | fileRead file traits =>
    ⟨.debug, "reqspec::scan", "scanned", [("file", .text file), ("traits", .count traits)]⟩
  | redeclared file name =>
    ⟨.warning, "reqspec::scan", "trait declared more than once, using the last one",
      [("file", .text file), ("ty", .text name)]⟩
  | filesFound count =>
    ⟨.info, "reqspec", "Scanning " ++ toString count ++ " source file(s)", []⟩
  | failed root message => ⟨.error, "reqspec", message, [("root", .text root)]⟩
  | reachedAgain root signature =>
    ⟨.warning, "reqspec", "reachable through several supertrait paths",
      [("root", .text root), ("signature", .text signature.shown)]⟩
  | written endpoints clients file =>
    ⟨.info, "reqspec",
      "Wrote " ++ toString endpoints ++ " spec(s) for " ++ toString clients ++ " client(s) to " ++
        file, []⟩

/-- A result and the events on the way to it. -/
structure Logged (α : Type) where
  value : α
  events : List Event
  deriving Repr

namespace Logged

instance : Monad Logged where
  pure a := ⟨a, []⟩
  bind x f := ⟨(f x.value).value, x.events ++ (f x.value).events⟩

/-- One event. -/
def emit (e : Event) : Logged Unit :=
  ⟨(), [e]⟩

@[simp] theorem value_pure {α : Type} (a : α) : (pure a : Logged α).value = a := rfl

@[simp] theorem events_pure {α : Type} (a : α) : (pure a : Logged α).events = [] := rfl

@[simp] theorem value_bind {α β : Type} (x : Logged α) (f : α → Logged β) :
    (x >>= f).value = (f x.value).value := rfl

@[simp] theorem events_bind {α β : Type} (x : Logged α) (f : α → Logged β) :
    (x >>= f).events = x.events ++ (f x.value).events := rfl

instance : LawfulMonad Logged :=
  LawfulMonad.mk' Logged
    (fun x => by simp [Functor.map])
    (fun a f => by simp [bind, pure])
    (fun x f g => by simp [bind, List.append_assoc])

@[simp] theorem value_emit (e : Event) : (emit e).value = () := rfl

@[simp] theorem events_emit (e : Event) : (emit e).events = [e] := rfl

end Logged

end ClientTraits
