import ClientTraits.Resolution.Walk
import ClientTraits.Proofs.Resolution.Graph

/-!
# A walk without the graph

`Catalog.findings` is the walk below an interface as a plain recursion over the catalog: it looks
every parent up by its name, and what it has seen are the names on the way. It yields the list of
all findings in their order. The walk over the graph records exactly these
(`Graph.Represents.walk_eq`), hence so does `Catalog.resolve` (`value_resolve`).

The walk itself has a bound on the length of its paths. It is no restriction: the positions on a
path are different and all belong to nodes, so that a path is never longer than there are nodes.
-/

namespace ClientTraits

/-! ### The recursion over the catalog -/

namespace Catalog

/-- What there is to tell below an interface, under the settings gathered so far. The names on the
way, that of the interface among them, are `seen`. -/
def findingsFrom (c : Catalog) (seen : List String) (settings : Fragment) (i : Interface) :
    List Finding :=
  i.findings (settings.merge i.shared) ++ i.parents.flatMap fun parent =>
    match _ : c.find? parent with
    | none => []
    | some j =>
      if j.name ∈ seen then [.graphError (.cyclic i.name j.name)]
      else c.findingsFrom (j.name :: seen) (settings.merge i.shared) j
  termination_by c.unseen seen
  decreasing_by exact unseen_cons_lt (by assumption) (by assumption)

/-- What there is to tell below an interface. -/
def findings (c : Catalog) (i : Interface) : List Finding :=
  c.findingsFrom [i.name] .empty i

/-- What there is to tell about one parent of an interface, under the settings of both. -/
def findingsThrough (c : Catalog) (seen : List String) (settings : Fragment) (child : String)
    (parent : String) : List Finding :=
  match c.find? parent with
  | none => []
  | some j =>
    if j.name ∈ seen then [.graphError (.cyclic child j.name)]
    else c.findingsFrom (j.name :: seen) settings j

theorem findingsFrom_eq (c : Catalog) (seen : List String) (settings : Fragment) (i : Interface) :
    c.findingsFrom seen settings i =
      i.findings (settings.merge i.shared) ++
        i.parents.flatMap (c.findingsThrough seen (settings.merge i.shared) i.name) := by
  rw [findingsFrom]
  congr 2
  funext parent
  simp only [findingsThrough]
  split
  · next h => rw [h]
  · next j h => rw [h]

end Catalog

/-! ### The walk records its findings -/

/-- Going over the items that are found is going over what there is for each item, if that is
nothing for an item that is not found. -/
theorem foldlM_filterMap_eq_flatMap {m : Type → Type} [Monad m] [LawfulMonad m]
    {α β γ δ : Type} {find : α → Option β} {expand : α → List γ} {visit : δ → β → m δ}
    {record : δ → γ → m δ} {items : List α}
    (hnone : ∀ a ∈ items, find a = none → expand a = [])
    (hsome : ∀ a ∈ items, ∀ b, find a = some b → ∀ d, visit d b = (expand a).foldlM record d)
    (start : δ) :
    (items.filterMap find).foldlM visit start = (items.flatMap expand).foldlM record start := by
  induction items generalizing start with
  | nil => rfl
  | cons a rest ih =>
      have hrest := ih (fun b hb => hnone b (List.mem_cons_of_mem a hb))
        (fun b hb => hsome b (List.mem_cons_of_mem a hb))
      rw [List.flatMap_cons, List.foldlM_append]
      cases ha : find a with
      | none =>
          rw [List.filterMap_cons_none ha, hnone a List.mem_cons_self ha, List.foldlM_nil,
            pure_bind, hrest]
      | some b =>
          rw [List.filterMap_cons_some ha, List.foldlM_cons, hsome a List.mem_cons_self b ha]
          exact bind_congr hrest

namespace Graph

theorem recordMethods_eq_foldlM (settings : Fragment)
    (methods : List (Signature × Except Defect Call)) (report : Report) :
    recordMethods settings methods report =
      (methods.map (Finding.ofMethod settings)).foldlM Report.record report := by
  induction methods generalizing report with
  | nil => rfl
  | cons m rest ih =>
      rw [List.map_cons, List.foldlM_cons]
      obtain ⟨signature, result⟩ := m
      cases result with
      | ok c =>
          rw [recordMethods]
          exact congrArg (report.recordEndpoint _ >>= ·) (funext ih)
      | error defect => rw [recordMethods, ih]; rfl

/-- A path below a position that is not on it leaves room for one more step. -/
theorem length_lt_of_not_mem {size : Nat} {path : List Nat} {p : Nat} (hpath : ∀ q ∈ path, q < size)
    (hnodup : path.Nodup) (hp : p < size) (hnew : p ∉ path) : path.length < size := by
  have hsub : p :: path ⊆ List.range size := by
    intro q hq
    rw [List.mem_range]
    rcases List.mem_cons.mp hq with rfl | hq
    · exact hp
    · exact hpath q hq
  have hle := (List.nodup_cons.mpr ⟨hnew, hnodup⟩).length_le_of_subset hsub
  rwa [List.length_cons, List.length_range] at hle

namespace Represents

variable {g : Graph} {c : Catalog} {met : List Interface}

theorem node_of_getElem? (h : g.Represents c met) {p : Nat} {i : Interface}
    (hp : met[p]? = some i) : g.nodes[p]? = some (nodeIn met i) := by
  rw [h.nodes_eq, List.getElem?_map, hp]
  rfl

theorem nameAt_of_getElem? (h : g.Represents c met) {p : Nat} {i : Interface}
    (hp : met[p]? = some i) : g.nameAt p = i.name := by
  rw [nameAt, h.node_of_getElem? hp]
  rfl

theorem length_nodes (h : g.Represents c met) : g.nodes.length = met.length := by
  rw [h.nodes_eq, List.length_map]

/-- A position is on a path if and only if its name is among the names of the path. -/
theorem mem_path_iff (h : g.Represents c met) {path : List Nat} (hpath : ∀ q ∈ path, q < met.length)
    {p : Nat} {i : Interface} (hp : met[p]? = some i) :
    p ∈ path ↔ i.name ∈ path.map g.nameAt := by
  constructor
  · intro hmem
    rw [← h.nameAt_of_getElem? hp]
    exact List.mem_map_of_mem hmem
  · intro hmem
    obtain ⟨q, hq, hname⟩ := List.mem_map.mp hmem
    have hlt : q < met.length := hpath q hq
    have hget : met[q]? = some met[q] := List.getElem?_eq_getElem hlt
    rw [h.nameAt_of_getElem? hget] at hname
    rw [h.inventory.eq_of_getElem? hp hget hname.symm]
    exact hq

/-- A parent without a position is not declared, and there is nothing to tell about it. -/
theorem findingsThrough_of_no_position (h : g.Represents c met) {i : Interface} (hi : i ∈ met)
    {parent : String} (hparent : parent ∈ i.parents) (hnone : positionIn met parent = none)
    (seen : List String) (settings : Fragment) :
    c.findingsThrough seen settings i.name parent = [] := by
  rw [Catalog.findingsThrough]
  split
  · rfl
  · next j hj =>
      obtain ⟨p, hp⟩ := exists_positionIn_of_mem (h.closed i hi j ⟨parent, hparent, hj⟩)
      rw [Catalog.name_of_find? hj, hnone] at hp
      cases hp

/-- **The walk over the graph is the recursion over the catalog.** The bound has to leave room for
all positions that are not on the path yet. -/
theorem walk_eq (h : g.Represents c met) (bound : Nat) {position : Nat} {i : Interface}
    (settings : Fragment) {path : List Nat} (report : Report) (hi : met[position]? = some i)
    (hpath : ∀ q ∈ path, q < met.length) (hnodup : path.Nodup) (hnew : position ∉ path)
    (hbound : met.length ≤ bound + path.length) :
    g.walk bound position settings path report =
      (c.findingsFrom ((position :: path).map g.nameAt) settings i).foldlM Report.record
        report := by
  induction bound generalizing position i settings path report with
  | zero =>
      -- A path without room for one more step has all positions, `position` among them.
      have hlt : position < met.length := (List.getElem?_eq_some_iff.mp hi).1
      have hroom := length_lt_of_not_mem hpath hnodup hlt hnew
      omega
  | succ bound ih =>
      have hpath' : ∀ q ∈ position :: path, q < met.length := by
        intro q hq
        rcases List.mem_cons.mp hq with rfl | hq
        · exact (List.getElem?_eq_some_iff.mp hi).1
        · exact hpath q hq
      have hnodup' : (position :: path).Nodup := List.nodup_cons.mpr ⟨hnew, hnodup⟩
      have hbound' : met.length ≤ bound + (position :: path).length := by
        rw [List.length_cons]
        omega
      rw [walk, h.node_of_getElem? hi, Catalog.findingsFrom_eq, List.foldlM_append]
      simp only [recordMethods_eq_foldlM]
      refine bind_congr fun report => ?_
      refine foldlM_filterMap_eq_flatMap ?_ ?_ report
      · intro parent hparent hnone
        exact h.findingsThrough_of_no_position (List.mem_of_getElem? hi) hparent hnone _ _
      · intro parent _ p hp report
        obtain ⟨j, hj, hname⟩ := exists_of_positionIn hp
        have hfind : c.find? parent = some j := by
          rw [← hname]
          exact h.inventory.declared j (List.mem_of_getElem? hj)
        rw [Catalog.findingsThrough, hfind]
        -- Being on the path is having one's name seen, so that both sides decide alike.
        by_cases hmem : p ∈ position :: path
        · rw [if_pos hmem]
          simp only [if_pos ((h.mem_path_iff hpath' hj).mp hmem)]
          rw [List.foldlM_cons, h.nameAt_of_getElem? hj]
          rfl
        · rw [if_neg hmem]
          simp only [if_neg fun hname => hmem ((h.mem_path_iff hpath' hj).mpr hname)]
          rw [ih _ report hj hpath' hnodup' hmem hbound', List.map_cons, h.nameAt_of_getElem? hj]
          rfl

end Represents

end Graph

/-! ### Resolving -/

namespace Catalog

/-- There is one thing to tell about a root that is not declared. -/
theorem resolve_of_undeclared {c : Catalog} {root : String} (h : c.find? root = none) :
    c.resolve root = pure ((Report.start root).recordGraphError (.undeclared root)) := by
  rw [resolve, graph?, h]
  rfl

/-- The graph below a declared root is there, and its report records the findings of the
recursion. -/
theorem exists_report_eq {c : Catalog} {root : String} {i : Interface}
    (h : c.find? root = some i) :
    ∃ g, c.graph? root = some g ∧
      g.value.report root = (c.findings i).foldlM Report.record (.start root) := by
  obtain ⟨g, met, hg, hi, hrep, -, -⟩ := exists_search h
  -- The bound of the whole walk is the number of nodes, which is that of the positions.
  have hwalk := hrep.walk_eq g.value.nodes.length .empty (.start root) hi
    (fun q hq => absurd hq List.not_mem_nil) List.nodup_nil List.not_mem_nil
    (by rw [hrep.length_nodes]; exact Nat.le_refl _)
  rw [List.map_singleton, hrep.nameAt_of_getElem? hi] at hwalk
  exact ⟨g, hg, hwalk⟩

/-- The report of a declared root records the findings of the recursion. -/
theorem value_resolve {c : Catalog} {root : String} {i : Interface} (h : c.find? root = some i) :
    (c.resolve root).value = ((c.findings i).foldlM Report.record (.start root)).value := by
  obtain ⟨g, hg, hreport⟩ := exists_report_eq h
  rw [resolve, hg, ← hreport]
  rfl

/-- A report is that of its root. -/
theorem root_resolve (c : Catalog) (root : String) : (c.resolve root).value.root = root := by
  cases hroot : c.find? root with
  | none => rw [resolve_of_undeclared hroot]; rfl
  | some i => rw [value_resolve hroot, Report.root_foldlM_record]; rfl

end Catalog

end ClientTraits
