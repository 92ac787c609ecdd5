import Mathlib.Data.List.Nodup
import ClientTraits.Proofs.Resolution.Lineage
import ClientTraits.Proofs.Resolution.Recording

/-!
# What the graph below a root holds

The graph is built from a list of interfaces that grows while its nodes are made. The lemmas here
say what the finished graph is, without the way to it: it *represents* the catalog through a list of
interfaces `met` (`Graph.Represents`). Each node is that of the interface at its position, the
interfaces have different names and are what the catalog finds under them, and no declared parent
is left out.

## Proof shape

One round of linking only extends `met` (`Catalog.Linked`), and positions in a list stay valid when
it is extended (`positionIn_of_isPrefix`). So the nodes that are done stay right, since all their
declared parents are in `met` (`Catalog.Building`).

`Catalog.makeNodes` has a bound on the number of rounds. It is no restriction, since interfaces with
different declared names are at most as many as the catalog has: the rounds are those of a loop
without a bound (`Catalog.round?`, `Catalog.Searches`), and they go on until there is no further one
(`Catalog.searches_makeNodes`).
-/

namespace ClientTraits

/-! ### Positions -/

/-- The position of the interface of a name. -/
def positionIn (met : List Interface) (name : String) : Option Nat :=
  met.findIdx? fun i => i.name == name

/-- The node of an interface whose parents are found in `met`. -/
def nodeIn (met : List Interface) (i : Interface) : Node where
  name := i.name
  shared := i.shared
  methods := i.outcomes
  parents := i.parents.filterMap (positionIn met)

theorem exists_of_positionIn {met : List Interface} {name : String} {p : Nat}
    (h : positionIn met name = some p) : ∃ i, met[p]? = some i ∧ i.name = name := by
  obtain ⟨hp, hname, -⟩ := List.findIdx?_eq_some_iff_getElem.mp h
  exact ⟨met[p], List.getElem?_eq_getElem hp, beq_iff_eq.mp hname⟩

theorem exists_positionIn_of_mem {met : List Interface} {i : Interface} (h : i ∈ met) :
    ∃ p, positionIn met i.name = some p := by
  rw [← Option.isSome_iff_exists, positionIn, List.findIdx?_isSome, List.any_eq_true]
  exact ⟨i, h, beq_iff_eq.mpr rfl⟩

theorem positionIn_eq_none {met : List Interface} {name : String}
    (h : ∀ i ∈ met, i.name ≠ name) : positionIn met name = none := by
  rw [positionIn, List.findIdx?_eq_none_iff]
  intro i hi
  exact beq_eq_false_iff_ne.mpr (h i hi)

/-- A position stays valid when the list is extended. -/
theorem positionIn_of_isPrefix {met all : List Interface} {name : String} {p : Nat}
    (hall : met <+: all) (h : positionIn met name = some p) : positionIn all name = some p := by
  obtain ⟨more, rfl⟩ := hall
  unfold positionIn at h ⊢
  rw [List.findIdx?_append, h, Option.some_or]

/-! ### Inventories -/

namespace Catalog

/-- The interfaces have different names and are what the catalog finds under them. -/
structure IsInventory (c : Catalog) (met : List Interface) : Prop where
  distinct : (met.map Interface.name).Nodup
  declared : ∀ i ∈ met, c.find? i.name = some i

namespace IsInventory

variable {c : Catalog} {met : List Interface}

/-- There are no more interfaces than the catalog has. -/
theorem length_le_size (h : c.IsInventory met) : met.length ≤ c.size := by
  have hsub : met.map Interface.name ⊆ c.names := by
    intro name hname
    obtain ⟨i, hi, rfl⟩ := List.mem_map.mp hname
    exact List.mem_map_of_mem (mem_of_find? (h.declared i hi))
  have hle := h.distinct.length_le_of_subset hsub
  rwa [List.length_map, names, List.length_map] at hle

/-- An interface of the list is the only one of its name. -/
theorem eq_of_find? (h : c.IsInventory met) {name : String} {i j : Interface} (hi : i ∈ met)
    (hname : i.name = name) (hj : c.find? name = some j) : i = j := by
  rw [← hname, h.declared i hi] at hj
  exact Option.some.inj hj

/-- What is found under a new name can be added. -/
theorem append (h : c.IsInventory met) {name : String} {i : Interface}
    (hi : c.find? name = some i) (hnew : positionIn met name = none) :
    c.IsInventory (met ++ [i]) where
  distinct := by
    rw [List.map_append, List.nodup_append]
    refine ⟨h.distinct, List.nodup_singleton _, ?_⟩
    intro a ha b hb hab
    obtain ⟨j, hj, rfl⟩ := List.mem_map.mp ha
    obtain ⟨p, hp⟩ := exists_positionIn_of_mem hj
    rw [List.map_singleton, List.mem_singleton] at hb
    rw [hab, hb, name_of_find? hi, hnew] at hp
    cases hp
  declared := by
    intro j hj
    rcases List.mem_append.mp hj with hj | hj
    · exact h.declared j hj
    · rw [List.mem_singleton.mp hj, name_of_find? hi]
      exact hi

/-- What is found under a name can be the first of the list. -/
theorem singleton {name : String} {i : Interface} (h : c.find? name = some i) :
    c.IsInventory [i] where
  distinct := List.nodup_singleton _
  declared := by
    intro j hj
    rw [List.mem_singleton.mp hj, name_of_find? h]
    exact h

/-- Undeclared names have no position. -/
theorem positionIn_eq_none (h : c.IsInventory met) {name : String} (hname : c.find? name = none) :
    positionIn met name = none := by
  refine ClientTraits.positionIn_eq_none fun i hi hi' => ?_
  rw [← hi', h.declared i hi] at hname
  cases hname

/-- The positions of the interfaces are told apart by their names. -/
theorem eq_of_getElem? (h : c.IsInventory met) {p q : Nat} {i j : Interface}
    (hp : met[p]? = some i) (hq : met[q]? = some j) (hname : i.name = j.name) : p = q := by
  have hlt : p < (met.map Interface.name).length := by
    rw [List.length_map]
    exact (List.getElem?_eq_some_iff.mp hp).1
  refine (List.getElem?_inj hlt h.distinct).mp ?_
  rw [List.getElem?_map, List.getElem?_map, hp, hq]
  exact congrArg some hname

end IsInventory

/-! ### One round of linking -/

/-- What linking the parents of an interface has to give: `met` extended to `all`, with every
declared parent in it, and the positions of the declared parents. -/
structure Linked (c : Catalog) (met : List Interface) (parents : List String)
    (all : List Interface) (positions : List Nat) : Prop where
  grows : met <+: all
  inventory : c.IsInventory all
  declared_mem : ∀ parent ∈ parents, ∀ j, c.find? parent = some j → j ∈ all
  positions_eq : positions = parents.filterMap (positionIn all)

namespace Linked

variable {c : Catalog} {met all : List Interface} {parent : String} {rest : List String}
  {positions : List Nat}

/-- A parent that was met before has its position. -/
theorem cons_met {p : Nat} (h : c.Linked met rest all positions)
    (hp : positionIn met parent = some p) : c.Linked met (parent :: rest) all (p :: positions) := by
  have hpall := positionIn_of_isPrefix h.grows hp
  refine ⟨h.grows, h.inventory, ?_, ?_⟩
  · intro name hname j hj
    rcases List.mem_cons.mp hname with rfl | hname
    · obtain ⟨i, hi, hiname⟩ := exists_of_positionIn hpall
      have hmem : i ∈ all := List.mem_of_getElem? hi
      rw [← h.inventory.eq_of_find? hmem hiname hj]
      exact hmem
    · exact h.declared_mem name hname j hj
  · rw [List.filterMap_cons_some hpall, ← h.positions_eq]

/-- A parent that is met for the first time takes the next position. -/
theorem cons_new {i : Interface} (h : c.Linked (met ++ [i]) rest all positions)
    (hnew : positionIn met parent = none) (hi : c.find? parent = some i) :
    c.Linked met (parent :: rest) all (met.length :: positions) := by
  -- From here on, `parent` is one that was met before, with the last position.
  have hlast : positionIn (met ++ [i]) parent = some met.length := by
    unfold positionIn at hnew ⊢
    rw [List.findIdx?_append, hnew, Option.none_or, List.findIdx?_singleton, name_of_find? hi,
      if_pos (beq_self_eq_true parent), Option.map_some, Nat.zero_add]
  obtain ⟨hgrows, hinventory, hmem, hpositions⟩ := h.cons_met hlast
  exact ⟨(List.prefix_append met [i]).trans hgrows, hinventory, hmem, hpositions⟩

/-- A parent that is not declared has no position. -/
theorem cons_undeclared (h : c.Linked met rest all positions) (hnone : c.find? parent = none) :
    c.Linked met (parent :: rest) all positions := by
  refine ⟨h.grows, h.inventory, ?_, ?_⟩
  · intro name hname j hj
    rcases List.mem_cons.mp hname with rfl | hname
    · rw [hnone] at hj
      cases hj
    · exact h.declared_mem name hname j hj
  · rw [List.filterMap_cons_none (h.inventory.positionIn_eq_none hnone), ← h.positions_eq]

end Linked

theorem linkParents_linked {c : Catalog} {met : List Interface} (child : String)
    (h : c.IsInventory met) (parents : List String) :
    c.Linked met parents (c.linkParents child met parents).value.1
      (c.linkParents child met parents).value.2 := by
  induction parents generalizing met with
  | nil => exact ⟨List.prefix_refl met, h, fun _ h => absurd h List.not_mem_nil, rfl⟩
  | cons parent rest ih =>
      rw [linkParents]
      split
      · next p hp => exact (ih h).cons_met hp
      · next hnew =>
          split
          · next i hi => exact (ih (h.append hi hnew)).cons_new hnew hi
          · next hnone => exact (ih h).cons_undeclared hnone

end Catalog

/-! ### The finished graph -/

/-- The graph has the nodes of `met` in this order, and no declared parent is left out. -/
structure Graph.Represents (g : Graph) (c : Catalog) (met : List Interface) : Prop where
  inventory : c.IsInventory met
  nodes_eq : g.nodes = met.map (nodeIn met)
  closed : ∀ i ∈ met, ∀ j, c.Extends i j → j ∈ met

namespace Catalog

/-- The nodes of the first interfaces of `met` are made, and their parents are met. -/
structure Building (c : Catalog) (met : List Interface) (nodes : List Node) : Prop where
  inventory : c.IsInventory met
  nodes_eq : nodes = (met.take nodes.length).map (nodeIn met)
  closed : ∀ i ∈ met.take nodes.length, ∀ j, c.Extends i j → j ∈ met

/-- The node of an interface whose declared parents are met stays right. -/
theorem nodeIn_of_isPrefix {c : Catalog} {met all : List Interface} {i : Interface}
    (hall : c.IsInventory all) (hgrows : met <+: all) (hmet : ∀ j, c.Extends i j → j ∈ met) :
    nodeIn all i = nodeIn met i := by
  have hparents : i.parents.filterMap (positionIn all) = i.parents.filterMap (positionIn met) := by
    refine List.filterMap_congr fun parent hparent => ?_
    cases hj : c.find? parent with
    | none =>
        rw [hall.positionIn_eq_none hj, positionIn_eq_none]
        intro k hk hname
        rw [← hname, hall.declared k (hgrows.subset hk)] at hj
        cases hj
    | some j =>
        obtain ⟨p, hp⟩ := exists_positionIn_of_mem (hmet j ⟨parent, hparent, hj⟩)
        rw [name_of_find? hj] at hp
        rw [hp, positionIn_of_isPrefix hgrows hp]
  rw [nodeIn, nodeIn, hparents]

/-- One more node is made, and its parents are met. -/
theorem Building.step {c : Catalog} {met : List Interface} {nodes : List Node} {i : Interface}
    (h : c.Building met nodes) (hi : met[nodes.length]? = some i) {all : List Interface}
    {positions : List Nat} (hlinked : c.Linked met i.parents all positions) :
    c.Building all (nodes ++ [⟨i.name, i.shared, i.outcomes, positions⟩]) := by
  have hlt : nodes.length < met.length := (List.getElem?_eq_some_iff.mp hi).1
  have htake : all.take (nodes.length + 1) = met.take nodes.length ++ [i] := by
    obtain ⟨more, rfl⟩ := hlinked.grows
    rw [List.take_append_of_le_length (by omega), List.take_add_one, hi]
    rfl
  -- The parents of the earlier interfaces are met, so that their nodes do not change any more.
  have hdone : ∀ j ∈ met.take nodes.length, nodeIn all j = nodeIn met j := by
    intro j hj
    exact nodeIn_of_isPrefix hlinked.inventory hlinked.grows (h.closed j hj)
  refine ⟨hlinked.inventory, ?_, ?_⟩
  · rw [List.length_append, List.length_singleton, htake, List.map_append, List.map_singleton,
      List.map_congr_left hdone, ← h.nodes_eq, nodeIn, ← hlinked.positions_eq]
  · rw [List.length_append, List.length_singleton, htake]
    intro j hj k hk
    rcases List.mem_append.mp hj with hj | hj
    · exact hlinked.grows.subset (h.closed j hj k hk)
    · -- The parents of `i` are those that were just linked.
      rw [List.mem_singleton.mp hj] at hk
      obtain ⟨parent, hparent, hfind⟩ := hk
      exact hlinked.declared_mem parent hparent k hfind

/-- With a node for every interface the graph is finished. -/
theorem Building.represents {c : Catalog} {met : List Interface} {nodes : List Node}
    (h : c.Building met nodes) (hlength : met.length ≤ nodes.length) :
    Graph.Represents ⟨nodes⟩ c met := by
  have htake : met.take nodes.length = met := List.take_of_length_le hlength
  refine ⟨h.inventory, ?_, ?_⟩
  · have hnodes := h.nodes_eq
    rw [htake] at hnodes
    exact hnodes
  · have hclosed := h.closed
    rw [htake] at hclosed
    exact hclosed

end Catalog

/-! ### The search as a loop -/

/-- Where the search for the interfaces below a root stands: those that were met, and the nodes of
the first ones of them. -/
structure Search where
  met : List Interface
  nodes : List Node

namespace Catalog

variable {c : Catalog}

/-- One round makes the node of the first interface that has none. There is no round if all have
one. -/
def round? (c : Catalog) (s : Search) : Option (Logged Search) :=
  s.met[s.nodes.length]?.map fun i => do
    let methods ← i.collectMethods
    let (met, parents) ← c.linkParents i.name s.met i.parents
    pure ⟨met, s.nodes ++ [⟨i.name, i.shared, methods, parents⟩]⟩

/-- Rounds lead from one state of the search to another, with these events on the way. There may be
any number of them. -/
inductive Searches (c : Catalog) : Search → List Event → Search → Prop
  | refl (s : Search) : Searches c s [] s
  | round {s t : Search} {x : Logged Search} {events : List Event} (h : c.round? s = some x)
      (hrest : Searches c x.value events t) : Searches c s (x.events ++ events) t

/-- What one round does. -/
theorem round?_eq_some {s : Search} {x : Logged Search} (h : c.round? s = some x) :
    ∃ i, s.met[s.nodes.length]? = some i ∧
      x.value = ⟨(c.linkParents i.name s.met i.parents).value.1,
        s.nodes ++ [⟨i.name, i.shared, i.outcomes,
          (c.linkParents i.name s.met i.parents).value.2⟩]⟩ ∧
      x.events = i.collectMethods.events ++ (c.linkParents i.name s.met i.parents).events := by
  obtain ⟨i, hi, rfl⟩ := Option.map_eq_some_iff.mp h
  refine ⟨i, hi, ?_, ?_⟩
  · rw [Logged.value_bind, Logged.value_bind, Interface.value_collectMethods]
    rfl
  · rw [Logged.events_bind, Logged.events_bind, Logged.events_pure, List.append_nil]

theorem round?_eq_none_iff {s : Search} :
    c.round? s = none ↔ s.met.length ≤ s.nodes.length := by
  rw [round?, Option.map_eq_none_iff, List.getElem?_eq_none_iff]

/-- In the beginning the root is met, and there is no node. -/
theorem Building.start {root : String} {i : Interface} (h : c.find? root = some i) :
    c.Building [i] [] :=
  ⟨.singleton h, rfl, fun _ h => absurd h List.not_mem_nil⟩

/-- A round keeps the nodes right. -/
theorem Building.round {s : Search} {x : Logged Search} (h : c.Building s.met s.nodes)
    (hround : c.round? s = some x) : c.Building x.value.met x.value.nodes := by
  obtain ⟨i, hi, hvalue, -⟩ := round?_eq_some hround
  rw [hvalue]
  exact h.step hi (linkParents_linked i.name h.inventory i.parents)

/-- The bound does not cut the search short if it allows as many nodes as the catalog has
interfaces. -/
theorem searches_makeNodes {bound : Nat} {met : List Interface} {nodes : List Node}
    (h : c.Building met nodes) (hbound : c.size ≤ nodes.length + bound) :
    ∃ all, c.Searches ⟨met, nodes⟩ (c.makeNodes bound met nodes).events
        ⟨all, (c.makeNodes bound met nodes).value⟩ ∧
      c.round? ⟨all, (c.makeNodes bound met nodes).value⟩ = none := by
  induction bound generalizing met nodes with
  | zero =>
      -- The catalog has no interface left that could be met.
      have hlength : met.length ≤ nodes.length := Nat.le_trans h.inventory.length_le_size hbound
      exact ⟨met, .refl _, round?_eq_none_iff.mpr hlength⟩
  | succ bound ih =>
      cases hround : c.round? ⟨met, nodes⟩ with
      | none =>
          have hi := hround
          rw [round?, Option.map_eq_none_iff] at hi
          rw [makeNodes, hi]
          exact ⟨met, .refl _, hround⟩
      | some x =>
          obtain ⟨i, hi, hvalue, -⟩ := round?_eq_some hround
          have hnext : c.makeNodes (bound + 1) met nodes =
              x >>= fun s => c.makeNodes bound s.met s.nodes := by
            have hx := hround
            rw [round?, hi, Option.map_some, Option.some.injEq] at hx
            rw [makeNodes, hi, ← hx]
            simp only [bind_assoc, pure_bind]
          have hlength : x.value.nodes.length = nodes.length + 1 := by
            rw [hvalue]
            exact List.length_append
          have hbuilding : c.Building x.value.met x.value.nodes :=
            Building.round (s := ⟨met, nodes⟩) h hround
          obtain ⟨all, hsearches, hend⟩ := ih hbuilding (by omega)
          rw [hnext, Logged.value_bind, Logged.events_bind]
          exact ⟨all, .round hround hsearches, hend⟩

/-- Rounds only extend what was met, and they keep the nodes right. -/
theorem Searches.building {s t : Search} {events : List Event} (h : c.Searches s events t)
    (hbuilding : c.Building s.met s.nodes) : s.met <+: t.met ∧ c.Building t.met t.nodes := by
  induction h with
  | refl s => exact ⟨List.prefix_refl s.met, hbuilding⟩
  | @round s t x events hround _ ih =>
      obtain ⟨hgrows, ht⟩ := ih (hbuilding.round hround)
      obtain ⟨i, -, hvalue, -⟩ := round?_eq_some hround
      have hlinked := linkParents_linked i.name hbuilding.inventory i.parents
      rw [hvalue] at hgrows
      exact ⟨hlinked.grows.trans hgrows, ht⟩

/-- The graph below a declared root is made by a search that ends. It represents the catalog, with
the root at the front. -/
theorem exists_search {root : String} {i : Interface} (h : c.find? root = some i) :
    ∃ g met, c.graph? root = some g ∧ met[0]? = some i ∧ g.value.Represents c met ∧
      c.Searches ⟨[i], []⟩ g.events ⟨met, g.value.nodes⟩ ∧
      c.round? ⟨met, g.value.nodes⟩ = none := by
  obtain ⟨met, hsearches, hend⟩ := searches_makeNodes (.start h) (Nat.le_add_left c.size 0)
  obtain ⟨⟨more, rfl⟩, hbuilding⟩ := hsearches.building (.start h)
  refine ⟨_, [i] ++ more, by rw [graph?, h]; rfl, rfl,
    hbuilding.represents (round?_eq_none_iff.mp hend), ?_, hend⟩
  rw [Logged.events_bind, Logged.events_pure, List.append_nil]
  exact hsearches

end Catalog

end ClientTraits
