import ClientTraits.Declaration.Catalog
import ClientTraits.Resolution.Collect

/-!
# The graph below a root

All declared interfaces that a root reaches by extension, each once, in the order in which a
breadth-first search meets them; the root comes first. The settings of their methods are collected
here, so that this happens once for each interface, however many paths lead to it. A parent that
is not declared is left out.
-/

namespace ClientTraits

/-- An interface with its settings collected and its parents found. -/
structure Node where
  name : String
  shared : Fragment
  methods : List (Signature × Except Defect Call)
  /-- The positions of the declared parents, in declared order. -/
  parents : List Nat

/-- The interfaces below a root, by position. -/
structure Graph where
  nodes : List Node

namespace Interface

/-- The signature and the settings of one method. -/
def collectMethod (i : Interface) (m : Method) : Logged (Signature × Except Defect Call) := do
  let call ← m.call
  pure (m.signature i.name, call)

/-- The signatures and settings of all methods. -/
def collectMethods (i : Interface) : Logged (List (Signature × Except Defect Call)) :=
  i.methods.mapM i.collectMethod

end Interface

namespace Catalog

/-- Find the parents of `child` in the list of interfaces met so far, which grows by those that are
met for the first time. -/
def linkParents (c : Catalog) (child : String) (met : List Interface) :
    List String → Logged (List Interface × List Nat)
  | [] => pure (met, [])
  | parent :: rest =>
    match met.findIdx? fun i => i.name == parent with
    | some position => do
      let (met, positions) ← c.linkParents child met rest
      pure (met, position :: positions)
    | none =>
      match c.find? parent with
      | some i => do
        let (all, positions) ← c.linkParents child (met ++ [i]) rest
        pure (all, met.length :: positions)
      | none => do
        Logged.emit (.undeclaredParent child parent)
        c.linkParents child met rest

/-- Make the nodes of the interfaces met so far, and of those that are met on the way. The first
argument bounds the number of nodes that are still to be made. -/
def makeNodes (c : Catalog) : Nat → List Interface → List Node → Logged (List Node)
  | 0, _, nodes => pure nodes
  | bound + 1, met, nodes =>
    match met[nodes.length]? with
    | none => pure nodes
    | some i => do
      let methods ← i.collectMethods
      let (met, parents) ← c.linkParents i.name met i.parents
      c.makeNodes bound met (nodes ++ [⟨i.name, i.shared, methods, parents⟩])

/-- The graph below a root that is declared. There are no more nodes than interfaces in the
catalog, since nodes are declared and have different names. -/
def graph? (c : Catalog) (root : String) : Option (Logged Graph) :=
  (c.find? root).map fun i => do
    let nodes ← c.makeNodes c.size [i] []
    pure ⟨nodes⟩

end Catalog

end ClientTraits
