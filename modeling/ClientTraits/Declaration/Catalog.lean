import ClientTraits.Declaration.Basic

/-!
# Catalogs of interfaces

The interfaces that are known, in the order in which their names came in. A second declaration of a
name takes the place of the first.
-/

namespace ClientTraits

/-- A set of declared interfaces. -/
structure Catalog where
  interfaces : List Interface
  deriving DecidableEq, Repr

namespace Catalog

/-- No interfaces. -/
def empty : Catalog := ⟨[]⟩

/-- The interface of a name. -/
def find? (c : Catalog) (name : String) : Option Interface :=
  c.interfaces.find? fun i => i.name == name

/-- The list with `i` in the place of the first interface of its name, or at the end. -/
def replaceOrAppend (i : Interface) : List Interface → List Interface
  | [] => [i]
  | j :: rest => if j.name = i.name then i :: rest else j :: replaceOrAppend i rest

/-- The catalog with `i` in it, for those who do not ask what it replaces. -/
def insert (c : Catalog) (i : Interface) : Catalog :=
  ⟨replaceOrAppend i c.interfaces⟩

/-- The list with `i` in the place of the first interface of its name, or at the end, and the
interface whose place it takes. -/
def exchangeOrAppend (i : Interface) : List Interface → Option Interface × List Interface
  | [] => (none, [i])
  | j :: rest =>
    if j.name = i.name then (some j, i :: rest)
    else
      let (old, rest) := exchangeOrAppend i rest
      (old, j :: rest)

/-- The interface that `i` replaces, and the catalog with `i` in it. -/
def exchange (c : Catalog) (i : Interface) : Option Interface × Catalog :=
  let (old, interfaces) := exchangeOrAppend i c.interfaces
  (old, ⟨interfaces⟩)

/-- Insert interfaces from left to right. -/
def ofList (interfaces : List Interface) : Catalog :=
  interfaces.foldl insert empty

/-- The number of interfaces. -/
def size (c : Catalog) : Nat :=
  c.interfaces.length

/-- The names in their order. -/
def names (c : Catalog) : List String :=
  c.interfaces.map Interface.name

/-- The interfaces that requests are to be described for. -/
def clients (c : Catalog) : List Interface :=
  c.interfaces.filter Interface.isClient

end Catalog

end ClientTraits
