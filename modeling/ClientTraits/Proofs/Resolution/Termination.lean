import ClientTraits.Proofs.Resolution.Discovery
import ClientTraits.Proofs.Resolution.Walk

/-!
# Why a resolution ends

`Graph.walk` has a bound, and it hands the path down as a value. Here the walk is told without
either (`Graph.Ends`): visits may be nested to any depth, and all of them share one path, onto which
a visit puts its position and from which it takes the topmost position in the end. A visit to a
position without a node does not come to an end.

If all parents of a graph are positions of its nodes, every visit to a position that is not on the
path ends. It leaves the path as it was and comes to the report of `Graph.walk`
(`Graph.exists_ends_visit`). The graph of a catalog is of this kind (`Graph.IsBelow`), so that
resolving ends for every root (`resolution_ends`).

## Proof shape

A position that is put on the path is not on it already, and all positions on it belong to nodes. So
the length of the path and the depth to which visits are nested from there are together at most the
number of nodes (`Ended.Fits`).
-/

namespace ClientTraits

/-! ### The graph below a root -/

/-- The graph has one node for each interface that the root reaches. The nodes are in the order of
discovery, and the parents of a node are the positions of its declared parents. -/
structure Graph.IsBelow (g : Graph) (c : Catalog) (root : Interface) (met : List Interface) :
    Prop where
  discovery : c.IsDiscovery root met
  head : met.head? = some root
  distinct : (met.map Interface.name).Nodup
  length_eq : g.nodes.length = met.length
  node : ∀ (k : Nat) (i : Interface), met[k]? = some i → ∃ node, g.nodes[k]? = some node ∧
    node.name = i.name ∧ node.shared = i.shared ∧ node.methods = i.outcomes ∧
    node.parents.map (fun p => met[p]?) = (i.parents.filterMap c.find?).map some
  inBounds : ∀ node ∈ g.nodes, ∀ p ∈ node.parents, p < g.nodes.length

namespace Catalog

/-- The root is discovered before everything else. -/
theorem IsDiscovery.head?_eq {c : Catalog} {root : Interface} {met : List Interface}
    (h : c.IsDiscovery root met) : met.head? = some root := by
  have hroot : root ∈ met := (h.mem_iff root).mpr Relation.ReflTransGen.refl
  cases met with
  | nil => cases hroot
  | cons i rest =>
      rcases List.mem_cons.mp hroot with heq | hrest
      · rw [List.head?_cons, heq]
      · -- No way comes before the one that stays at the root.
        obtain ⟨w, -, hbefore⟩ := (List.pairwise_cons.mp h.ordered).1 root hrest
        have hlt := Way.place_lt_iff.mp (hbefore [] follow?_nil)
        rcases hlt with hlt | ⟨-, hlt⟩
        · exact absurd hlt (Nat.not_lt_zero _)
        · exact absurd hlt (List.not_lt_nil _)

end Catalog

namespace Graph.Represents

variable {g : Graph} {c : Catalog} {met : List Interface}

/-- The positions of the parents lead to the declared ones, in their order. -/
theorem map_parents_nodeIn (h : g.Represents c met) {i : Interface} (hi : i ∈ met) :
    (nodeIn met i).parents.map (fun p => met[p]?) = (i.parents.filterMap c.find?).map some := by
  rw [nodeIn, List.map_filterMap, List.map_filterMap]
  refine List.filterMap_congr fun parent hparent => ?_
  cases hj : c.find? parent with
  | none => rw [h.inventory.positionIn_eq_none hj]; rfl
  | some j =>
      obtain ⟨p, hp⟩ := exists_positionIn_of_mem (h.closed i hi j ⟨parent, hparent, hj⟩)
      rw [Catalog.name_of_find? hj] at hp
      obtain ⟨k, hk, hname⟩ := exists_of_positionIn hp
      rw [hp, Option.map_some, hk, h.inventory.eq_of_find? (List.mem_of_getElem? hk) hname hj]
      rfl

/-- A graph that represents what a root reaches is the one below it. -/
theorem isBelow (h : g.Represents c met) {root : Interface} (hmet : c.IsDiscovery root met) :
    g.IsBelow c root met where
  discovery := hmet
  head := hmet.head?_eq
  distinct := h.inventory.distinct
  length_eq := h.length_nodes
  node := fun k i hi => ⟨nodeIn met i, h.node_of_getElem? hi, rfl, rfl, rfl,
    h.map_parents_nodeIn (List.mem_of_getElem? hi)⟩
  inBounds := by
    intro node hnode p hp
    rw [h.nodes_eq] at hnode
    obtain ⟨i, -, rfl⟩ := List.mem_map.mp hnode
    obtain ⟨parent, -, hparent⟩ := List.mem_filterMap.mp hp
    obtain ⟨j, hj, -⟩ := exists_of_positionIn hparent
    rw [h.length_nodes]
    exact (List.getElem?_eq_some_iff.mp hj).1

end Graph.Represents

/-! ### Visits that share a path -/

/-- What there is to do on a walk. -/
inductive Errand
  /-- Visit the node at a position. -/
  | visit (position : Nat) (settings : Fragment)
  /-- Go over the parents of a node that are left. -/
  | goOver (child : String) (settings : Fragment) (parents : List Nat)

/-- What is known of an errand that has ended. -/
structure Ended where
  /-- The path as it was left, the position that was put on it last in front. -/
  path : List Nat
  /-- The path after each time that a position was put on it. -/
  held : List (List Nat)
  /-- How deep visits were nested. -/
  depth : Nat
  report : Logged Report

namespace Graph

/-- An errand finds a path and a report, and it ends. -/
inductive Ends (g : Graph) : Errand → List Nat → Report → Ended → Prop
  | visit {position : Nat} {settings : Fragment} {path : List Nat} {report : Report} {node : Node}
      {e : Ended} (hnode : g.nodes[position]? = some node)
      (hparents : Ends g (.goOver node.name (settings.merge node.shared) node.parents)
        (position :: path)
        (recordMethods (settings.merge node.shared) node.methods report).value e) :
      Ends g (.visit position settings) path report
        ⟨e.path.tail, (position :: path) :: e.held, e.depth + 1,
          recordMethods (settings.merge node.shared) node.methods report >>= fun _ => e.report⟩
  | done {child : String} {settings : Fragment} {path : List Nat} {report : Report} :
      Ends g (.goOver child settings []) path report ⟨path, [], 0, pure report⟩
  | onPath {child : String} {settings : Fragment} {parent : Nat} {rest path : List Nat}
      {report : Report} {node : Node} {e : Ended} (hmem : parent ∈ path)
      (hnode : g.nodes[parent]? = some node)
      (hrest : Ends g (.goOver child settings rest) path
        (report.recordGraphError (.cyclic child node.name)) e) :
      Ends g (.goOver child settings (parent :: rest)) path report e
  | through {child : String} {settings : Fragment} {parent : Nat} {rest path : List Nat}
      {report : Report} {e e' : Ended} (hnew : parent ∉ path)
      (hvisit : Ends g (.visit parent settings) path report e)
      (hrest : Ends g (.goOver child settings rest) e.path e.report.value e') :
      Ends g (.goOver child settings (parent :: rest)) path report
        ⟨e'.path, e.held ++ e'.held, max e.depth e'.depth, e.report >>= fun _ => e'.report⟩

variable {g : Graph}

/-- An errand ends in one way only. -/
theorem Ends.unique {errand : Errand} {path : List Nat} {report : Report} {e e' : Ended}
    (h : g.Ends errand path report e) (h' : g.Ends errand path report e') : e = e' := by
  induction h generalizing e' with
  | visit hnode _ ih =>
      cases h' with
      | visit hnode' hparents' =>
          cases Option.some.inj (hnode.symm.trans hnode')
          rw [ih hparents']
  | done => cases h'; rfl
  | onPath hmem hnode _ ih =>
      cases h' with
      | onPath _ hnode' hrest' =>
          cases Option.some.inj (hnode.symm.trans hnode')
          exact ih hrest'
      | through hnew' _ _ => exact absurd hmem hnew'
  | through hnew _ _ ihvisit ihrest =>
      cases h' with
      | onPath hmem' _ _ => exact absurd hmem' hnew
      | through _ hvisit' hrest' =>
          cases ihvisit hvisit'
          rw [ihrest hrest']

end Graph

/-! ### Room on the path -/

/-- An errand that found this path has ended well: it came to the report, the path is restored and
never held a position twice or one without a node, and visits were nested no deeper than there was
room on the path. -/
structure Ended.Fits (e : Ended) (g : Graph) (path : List Nat) (report : Logged Report) : Prop where
  path_eq : e.path = path
  report_eq : e.report = report
  room : path.length + e.depth ≤ g.nodes.length
  distinct : ∀ held ∈ e.held, held.Nodup
  inBounds : ∀ held ∈ e.held, ∀ p ∈ held, p < g.nodes.length

namespace Graph

variable {g : Graph}

/-- If visits to positions that are not on the path end well, so does going over parents. -/
theorem exists_ends_goOver (settings : Fragment) (walk : Nat → Report → Logged Report)
    {path : List Nat} (hroom : path.length ≤ g.nodes.length)
    (hvisit : ∀ p < g.nodes.length, p ∉ path → ∀ report,
      ∃ e, g.Ends (.visit p settings) path report e ∧ e.Fits g path (walk p report))
    (child : String) {parents : List Nat} (hparents : ∀ p ∈ parents, p < g.nodes.length)
    (report : Report) :
    ∃ e, g.Ends (.goOver child settings parents) path report e ∧
      e.Fits g path (parents.foldlM (fun report parent =>
        if parent ∈ path then pure (report.recordGraphError (.cyclic child (g.nameAt parent)))
        else walk parent report) report) := by
  induction parents generalizing report with
  | nil =>
      exact ⟨_, .done, rfl, rfl, hroom, fun _ h => absurd h List.not_mem_nil,
        fun _ h => absurd h List.not_mem_nil⟩
  | cons parent rest ih =>
      obtain ⟨hparent, hrest⟩ := List.forall_mem_cons.mp hparents
      rw [List.foldlM_cons]
      by_cases hmem : parent ∈ path
      · have hnode : g.nodes[parent]? = some g.nodes[parent] := List.getElem?_eq_getElem hparent
        have hname : g.nameAt parent = g.nodes[parent].name := by
          rw [nameAt, hnode]
          rfl
        rw [if_pos hmem, pure_bind, hname]
        obtain ⟨e, he, hfits⟩ :=
          ih hrest (report.recordGraphError (.cyclic child g.nodes[parent].name))
        exact ⟨e, .onPath hmem hnode he, hfits⟩
      · rw [if_neg hmem]
        obtain ⟨e, he, hfits⟩ := hvisit parent hparent hmem report
        obtain ⟨e', he', hfits'⟩ := ih hrest e.report.value
        -- The path is restored, so that the next parent finds the same one.
        rw [← hfits.path_eq] at he'
        refine ⟨_, .through hmem he he', hfits'.path_eq, ?_, ?_, ?_, ?_⟩
        · rw [hfits'.report_eq, hfits.report_eq]
          rfl
        · have hleft := hfits.room
          have hright := hfits'.room
          dsimp only
          omega
        · exact List.forall_mem_append.mpr ⟨hfits.distinct, hfits'.distinct⟩
        · exact List.forall_mem_append.mpr ⟨hfits.inBounds, hfits'.inBounds⟩

/-- **A visit to a position that is not on the path ends**, and it comes to what `walk` comes to
with a bound that leaves room for all other positions. -/
theorem exists_ends_visit (hparents : ∀ node ∈ g.nodes, ∀ p ∈ node.parents, p < g.nodes.length)
    (bound : Nat) {position : Nat} (settings : Fragment) {path : List Nat} (report : Report)
    (hposition : position < g.nodes.length) (hnew : position ∉ path)
    (hpath : ∀ p ∈ path, p < g.nodes.length) (hnodup : path.Nodup)
    (hbound : g.nodes.length ≤ bound + path.length) :
    ∃ e, g.Ends (.visit position settings) path report e ∧
      e.Fits g path (g.walk bound position settings path report) := by
  have hroom : path.length < g.nodes.length := length_lt_of_not_mem hpath hnodup hposition hnew
  induction bound generalizing position settings path report with
  | zero => omega
  | succ bound ih =>
      have hnode : g.nodes[position]? = some g.nodes[position] :=
        List.getElem?_eq_getElem hposition
      have hpath' : ∀ p ∈ position :: path, p < g.nodes.length :=
        List.forall_mem_cons.mpr ⟨hposition, hpath⟩
      have hnodup' : (position :: path).Nodup := List.nodup_cons.mpr ⟨hnew, hnodup⟩
      have hroom' : (position :: path).length ≤ g.nodes.length := hroom
      rw [walk, hnode]
      dsimp only
      generalize g.nodes[position] = node at hnode
      obtain ⟨e, he, hfits⟩ := exists_ends_goOver (settings.merge node.shared)
        (fun p => g.walk bound p (settings.merge node.shared) (position :: path)) hroom'
        (fun p hp hnewp report => ih (settings.merge node.shared) report hp hnewp hpath' hnodup'
          (by rw [List.length_cons]; omega)
          (length_lt_of_not_mem hpath' hnodup' hp hnewp))
        node.name (hparents node (List.mem_of_getElem? hnode))
        (recordMethods (settings.merge node.shared) node.methods report).value
      refine ⟨_, .visit hnode he, ?_, ?_, ?_, ?_, ?_⟩
      · rw [hfits.path_eq]
        rfl
      · rw [hfits.report_eq]
        rfl
      · have hdeeper := hfits.room
        rw [List.length_cons] at hdeeper
        dsimp only
        omega
      · exact List.forall_mem_cons.mpr ⟨hnodup', hfits.distinct⟩
      · exact List.forall_mem_cons.mpr ⟨hpath', hfits.inBounds⟩

end Graph

/-! ### Resolving ends -/

namespace Catalog

/-- **Resolving ends for every root.** A root that is not declared has no graph. Else the search
for what it reaches comes to a round that there is not, and it has made the graph below the root.
The visit to the root with nothing on the path ends, in one way only, with the report; the path is
empty again, it never held a position twice, and visits were nested no deeper than there are
nodes. -/
theorem resolution_ends (c : Catalog) (root : String) :
    match c.find? root with
    | none => c.graph? root = none
    | some i => ∃ g met, c.graph? root = some g ∧ g.value.IsBelow c i met ∧
        c.Searches ⟨[i], []⟩ g.events ⟨met, g.value.nodes⟩ ∧
        c.round? ⟨met, g.value.nodes⟩ = none ∧
        ∃ e, (∀ e', g.value.Ends (.visit 0 .empty) [] (.start root) e' ↔ e' = e) ∧
          e.report = g.value.report root ∧ e.path = [] ∧ e.depth ≤ g.value.nodes.length ∧
          ∀ held ∈ e.held, held.Nodup ∧ ∀ p ∈ held, p < g.value.nodes.length := by
  cases hroot : c.find? root with
  | none =>
      dsimp only
      rw [graph?, hroot]
      rfl
  | some i =>
      dsimp only
      obtain ⟨g, met, hg, -, hrep, hsearches, hend⟩ := exists_search hroot
      have hself : c.find? i.name = some i := by rw [name_of_find? hroot, hroot]
      have hbelow := hrep.isBelow (hsearches.isDiscovery hself hend)
      have hpositive : 0 < g.value.nodes.length := by
        rw [hbelow.length_eq]
        exact List.length_pos_of_mem (List.mem_of_mem_head? hbelow.head)
      obtain ⟨e, he, hfits⟩ := Graph.exists_ends_visit hbelow.inBounds g.value.nodes.length .empty
        (.start root) hpositive List.not_mem_nil (fun p hp => absurd hp List.not_mem_nil)
        List.nodup_nil (Nat.le_add_right _ _)
      have hdepth := hfits.room
      rw [List.length_nil, Nat.zero_add] at hdepth
      refine ⟨g, met, hg, hbelow, hsearches, hend, e, fun e' => ⟨fun he' => he'.unique he, ?_⟩,
        hfits.report_eq, hfits.path_eq, hdepth, fun held hheld =>
          ⟨hfits.distinct held hheld, hfits.inBounds held hheld⟩⟩
      rintro rfl
      exact he

end Catalog

end ClientTraits
