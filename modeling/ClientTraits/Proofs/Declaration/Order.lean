import Mathlib.Data.Finset.Card
import Mathlib.Data.List.Induction
import Mathlib.Data.List.Sort
import ClientTraits.Proofs.Declaration.Lookup
import ClientTraits.Proofs.Resolution.Recording

/-!
# The order of a catalog

Where an interface stands in a catalog and what it declares are decided at different times. A name
keeps the place that it got when it came in first, and under it stands what came in last
(`Catalog.Keeps`). This says all about a catalog (`Keeps.unique`). A name has only one place, so
that whatever is replaced is what was found under the name (`exchange_eq`).
-/

namespace ClientTraits

/-! ### First occurrences -/

/-- Items that are kept once each stand in the order in which they came in first. -/
theorem pairwise_idxOf_foldl_appendNew {α : Type} [DecidableEq α] (items : List α) :
    (items.foldl appendNew []).Pairwise fun a b => items.idxOf a < items.idxOf b := by
  induction items using List.reverseRecOn with
  | nil => exact List.Pairwise.nil
  | append_singleton items a ih =>
      have hmem : ∀ {b}, b ∈ items.foldl appendNew [] → b ∈ items := fun {b} hb =>
        (mem_foldl_appendNew.mp hb).resolve_left List.not_mem_nil
      -- What was there before keeps its place.
      have hplaces : (items.foldl appendNew []).Pairwise fun b c =>
          (items ++ [a]).idxOf b < (items ++ [a]).idxOf c := by
        refine ih.imp_of_mem fun {b c} hb hc hlt => ?_
        rw [List.idxOf_append_of_mem (hmem hb), List.idxOf_append_of_mem (hmem hc)]
        exact hlt
      rw [List.foldl_append, List.foldl_cons, List.foldl_nil, appendNew]
      split
      · exact hplaces
      · next ha =>
          have hnew : a ∉ items := fun h => ha (mem_foldl_appendNew.mpr (Or.inr h))
          refine List.pairwise_append.mpr ⟨hplaces, List.pairwise_singleton _ _, ?_⟩
          intro b hb c hc
          rw [List.mem_singleton.mp hc, List.idxOf_append_of_mem (hmem hb),
            List.idxOf_append_of_notMem hnew]
          exact Nat.lt_add_right _ (List.idxOf_lt_length_of_mem (hmem hb))

namespace Catalog

/-! ### Names -/

theorem map_name_replaceOrAppend (i : Interface) (interfaces : List Interface) :
    (replaceOrAppend i interfaces).map Interface.name =
      appendNew (interfaces.map Interface.name) i.name := by
  induction interfaces with
  | nil => rfl
  | cons j rest ih =>
      rw [replaceOrAppend]
      by_cases hj : j.name = i.name
      · rw [if_pos hj, List.map_cons, List.map_cons, appendNew, hj, if_pos List.mem_cons_self]
      · rw [if_neg hj, List.map_cons, ih, List.map_cons, appendNew, appendNew]
        have hmem : i.name ∈ j.name :: rest.map Interface.name ↔
            i.name ∈ rest.map Interface.name := by
          rw [List.mem_cons, or_iff_right (Ne.symm hj)]
        by_cases hi : i.name ∈ rest.map Interface.name
        · rw [if_pos hi, if_pos (hmem.mpr hi)]
        · rw [if_neg hi, if_neg (mt hmem.mp hi), List.cons_append]

/-- Inserting adds a name at the end, or it changes no name. -/
theorem names_insert (c : Catalog) (i : Interface) :
    (c.insert i).names = appendNew c.names i.name :=
  map_name_replaceOrAppend i c.interfaces

theorem names_foldl_insert (interfaces : List Interface) (c : Catalog) :
    (interfaces.foldl insert c).names = (interfaces.map Interface.name).foldl appendNew c.names := by
  induction interfaces generalizing c with
  | nil => rfl
  | cons i rest ih => rw [List.foldl_cons, ih, names_insert, List.map_cons, List.foldl_cons]

theorem names_ofList (interfaces : List Interface) :
    (ofList interfaces).names = (interfaces.map Interface.name).foldl appendNew [] :=
  names_foldl_insert interfaces empty

theorem nodup_names_ofList (interfaces : List Interface) : (ofList interfaces).names.Nodup := by
  rw [names_ofList]
  exact foldl_appendNew_nodup List.nodup_nil

theorem mem_names_ofList {interfaces : List Interface} {name : String} :
    name ∈ (ofList interfaces).names ↔ name ∈ interfaces.map Interface.name := by
  rw [names_ofList, mem_foldl_appendNew, or_iff_right List.not_mem_nil]

/-- The place at which a name occurs first among declarations. -/
def firstPlace (declared : List Interface) (name : String) : Nat :=
  (declared.map Interface.name).idxOf name

theorem pairwise_firstPlace_names (declared : List Interface) :
    (ofList declared).names.Pairwise fun a b => firstPlace declared a < firstPlace declared b := by
  rw [names_ofList]
  exact pairwise_idxOf_foldl_appendNew (declared.map Interface.name)

theorem length_names (c : Catalog) : c.names.length = c.size :=
  List.length_map _

/-- There is one interface for each name. -/
theorem size_ofList (declared : List Interface) :
    (ofList declared).size = (declared.map Interface.name).toFinset.card := by
  rw [← length_names, ← List.toFinset_card_of_nodup (nodup_names_ofList declared)]
  congr 1
  ext name
  rw [List.mem_toFinset, List.mem_toFinset, mem_names_ofList]

/-! ### What stands under a name -/

/-- The last one of the declarations of a name. -/
def lastDeclared? (declared : List Interface) (name : String) : Option Interface :=
  (declared.filter fun i => i.name == name).getLast?

theorem find?_of_mem_interfaces {c : Catalog} (h : c.names.Nodup) {i : Interface}
    (hi : i ∈ c.interfaces) : c.find? i.name = some i := by
  rw [find?, List.find?_eq_some_iff_append]
  obtain ⟨before, after, hsplit⟩ := List.append_of_mem hi
  refine ⟨beq_self_eq_true _, before, after, hsplit, fun j hj => ?_⟩
  rw [names, hsplit, List.map_append, List.nodup_append] at h
  have hne : j.name ≠ i.name :=
    h.2.2 _ (List.mem_map_of_mem hj) _ (List.mem_map_of_mem List.mem_cons_self)
  simpa using hne

/-- Under each name stands what was declared last. -/
theorem map_some_interfaces (declared : List Interface) :
    (ofList declared).interfaces.map some =
      (ofList declared).names.map (lastDeclared? declared) := by
  rw [names, List.map_map]
  refine List.map_congr_left fun i hi => ?_
  rw [← find?_of_mem_interfaces (nodup_names_ofList declared) hi, find?_ofList]
  rfl

/-- The catalog has each declared name once. The names are in the order in which they came in
first, and under each of them stands what was declared last. -/
structure Keeps (c : Catalog) (declared : List Interface) : Prop where
  distinct : c.names.Nodup
  mem_names : ∀ name, name ∈ c.names ↔ ∃ i ∈ declared, i.name = name
  ordered : c.names.Pairwise fun a b => firstPlace declared a < firstPlace declared b
  content : c.interfaces.map some = c.names.map (lastDeclared? declared)
  found : ∀ name, c.find? name = lastDeclared? declared name
  size_eq : c.size = (declared.map Interface.name).toFinset.card

theorem keeps_ofList (declared : List Interface) : (ofList declared).Keeps declared where
  distinct := nodup_names_ofList declared
  mem_names := fun _ => mem_names_ofList.trans List.mem_map
  ordered := pairwise_firstPlace_names declared
  content := map_some_interfaces declared
  found := find?_ofList declared
  size_eq := size_ofList declared

/-- There is only one such catalog. -/
theorem Keeps.unique {c c' : Catalog} {declared : List Interface} (h : c.Keeps declared)
    (h' : c'.Keeps declared) : c = c' := by
  have hasymm : Std.Asymm fun a b => firstPlace declared a < firstPlace declared b :=
    ⟨fun _ _ => Nat.lt_asymm⟩
  have hnames : c.names = c'.names :=
    h.ordered.eq_of_mem_iff h'.ordered fun name => (h.mem_names name).trans (h'.mem_names name).symm
  have hsome : c.interfaces.map some = c'.interfaces.map some := by
    rw [h.content, h'.content, hnames]
  exact congrArg Catalog.mk (List.map_injective_iff.mpr (Option.some_injective _) hsome)

/-! ### What is replaced -/

theorem exchangeOrAppend_eq (i : Interface) (interfaces : List Interface) :
    exchangeOrAppend i interfaces =
      (interfaces.find? fun j => j.name == i.name, replaceOrAppend i interfaces) := by
  induction interfaces with
  | nil => rfl
  | cons j rest ih =>
      rw [exchangeOrAppend, replaceOrAppend]
      by_cases hj : j.name = i.name
      · rw [if_pos hj, if_pos hj, List.find?_cons_of_pos (by simpa using hj)]
      · rw [if_neg hj, if_neg hj, ih, List.find?_cons_of_neg (by simpa using hj)]

/-- What an interface replaces is what was found under its name. -/
theorem exchange_eq (c : Catalog) (i : Interface) :
    c.exchange i = (c.find? i.name, c.insert i) := by
  rw [exchange, exchangeOrAppend_eq]
  rfl

/-- An interface replaces another one, or there is one more. -/
theorem size_insert (c : Catalog) (i : Interface) :
    (c.insert i).size = c.size + if (c.find? i.name).isSome then 0 else 1 := by
  have hmem : (c.find? i.name).isSome = true ↔ i.name ∈ c.names := by
    rw [find?, List.find?_isSome, names, List.mem_map]
    simp only [beq_iff_eq]
  rw [← length_names, ← length_names, names_insert, appendNew]
  by_cases hi : i.name ∈ c.names
  · rw [if_pos hi, if_pos (hmem.mpr hi), Nat.add_zero]
  · rw [if_neg hi, if_neg (mt hmem.mp hi), List.length_append, List.length_singleton]

end Catalog

end ClientTraits
