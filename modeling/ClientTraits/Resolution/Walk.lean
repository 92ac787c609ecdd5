import ClientTraits.Resolution.Graph
import ClientTraits.Resolution.Report

/-!
# Resolving a root

Starting from the root with no settings, each interface adds its shared settings on the right, its
methods are recorded under the settings gathered so far, and then its parents are visited in
declared order with the same settings. Hence the root's headers win over those of its parents, and
a method never sees the settings of the interfaces that its own interface extends.

A parent that is on the path already is a graph error and is not visited. There is no other
restriction: an interface with several paths to it is visited once for each path.
-/

namespace ClientTraits

namespace Graph

/-- The name of the interface at a position. -/
def nameAt (g : Graph) (position : Nat) : String :=
  ((g.nodes[position]?).map Node.name).getD ""

/-- Record the methods of a node under the settings gathered so far. -/
def recordMethods (settings : Fragment) :
    List (Signature × Except Defect Call) → Report → Logged Report
  | [], report => pure report
  | (signature, .ok c) :: rest, report => do
    let report ← report.recordEndpoint (.ofCall signature (settings.apply c))
    recordMethods settings rest report
  | (signature, .error defect) :: rest, report =>
    recordMethods settings rest (report.recordFailure ⟨signature, defect⟩)

/-- Visit the node at a position. `path` holds the positions on the way to it, the last one first.
The first argument bounds the length of the paths from here. -/
def walk (g : Graph) :
    Nat → Nat → Fragment → List Nat → Report → Logged Report
  | 0, _, _, _, report => pure report
  | bound + 1, position, settings, path, report =>
    match g.nodes[position]? with
    | none => pure report
    | some node => do
      let settings := settings.merge node.shared
      let path := position :: path
      let report ← recordMethods settings node.methods report
      node.parents.foldlM (fun report parent =>
        if parent ∈ path then
          pure (report.recordGraphError (.cyclic node.name (g.nameAt parent)))
        else g.walk bound parent settings path report) report

/-- Visit everything below the root. No path is longer than the number of nodes. -/
def report (g : Graph) (root : String) : Logged Report :=
  g.walk g.nodes.length 0 .empty [] (.start root)

end Graph

namespace Catalog

/-- The report for a root. -/
def resolve (c : Catalog) (root : String) : Logged Report :=
  match c.graph? root with
  | none => pure ((Report.start root).recordGraphError (.undeclared root))
  | some graph => do
    let graph ← graph
    let report ← graph.report root
    Logged.emit
      (.resolved root graph.nodes.length report.endpoints.length report.failures.length)
    pure report

/-- The reports for all clients, in the order of the catalog. -/
def resolveAll (c : Catalog) : Logged (List Report) :=
  c.clients.mapM fun i => c.resolve i.name

end Catalog

end ClientTraits
