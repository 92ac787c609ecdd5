import Mathlib.Data.List.Perm.Basic
import ClientTraits.Proofs.Declaration.Lookup
import ClientTraits.Proofs.Resolution.Cycles
import ClientTraits.Proofs.Resolution.Report

/-!
# What a root records for itself

A walk begins with the methods of its root and never comes back to the root, since all other simple
lineages lead to interfaces of other names (`exists_lineages_eq_cons`). So the entries of a report
that belong to the root stand in front, and they are read off the declaration of the root alone
(`ownEndpoints_resolve`, `ownFailures_resolve`). A catalog with no other declaration than the root
gives these entries and nothing else, apart from one graph error if the root lists its own name
(`Interface.graphErrors_lonelyReport`).
-/

namespace ClientTraits

/-! ### Entries by owner -/

namespace Report

/-- The endpoints of the methods that the interface of a name declares. -/
def endpointsOf (r : Report) (owner : String) : List Endpoint :=
  r.endpoints.filter fun e => e.signature.owner == owner

/-- The failures of the methods that the interface of a name declares. -/
def failuresOf (r : Report) (owner : String) : List MethodFailure :=
  r.failures.filter fun f => f.signature.owner == owner

end Report

namespace Interface

/-- The endpoints of the methods under the interface's own settings. -/
def ownEndpoints (i : Interface) : List Endpoint :=
  i.endpoints i.shared

/-- The failures of the methods, once each. -/
def ownFailures (i : Interface) : List MethodFailure :=
  i.failures.foldl appendNew []

variable {i : Interface}

theorem owner_of_mem_endpoints {settings : Fragment} {e : Endpoint} (h : e ∈ i.endpoints settings) :
    e.signature.owner = i.name := by
  obtain ⟨m, -, call, -, rfl⟩ := Catalog.mem_endpoints.mp h
  rfl

theorem owner_of_mem_failures {f : MethodFailure} (h : f ∈ i.failures) :
    f.signature.owner = i.name := by
  obtain ⟨m, -, hsignature, -⟩ := Catalog.mem_failures.mp h
  rw [← hsignature]
  rfl

theorem mem_ownFailures {f : MethodFailure} : f ∈ i.ownFailures ↔ f ∈ i.failures := by
  rw [ownFailures, mem_foldl_appendNew]
  exact or_iff_right List.not_mem_nil

end Interface

/-- The entries of the left part, if they are exactly those with a property. -/
theorem filter_append_eq_left {α : Type} {p : α → Bool} {xs ys : List α}
    (hx : ∀ x ∈ xs, p x = true) (hy : ∀ y ∈ ys, ¬ p y = true) : (xs ++ ys).filter p = xs := by
  rw [List.filter_append, List.filter_eq_self.mpr hx, List.filter_eq_nil_iff.mpr hy,
    List.append_nil]

/-! ### The root and the rest -/

theorem Lineage.last_name_mem_names (l : Lineage) : l.last.name ∈ l.names := by
  induction l with
  | self i => exact List.mem_singleton_self _
  | via i entry rest ih => exact List.mem_cons_of_mem _ ih

namespace Catalog

variable {c : Catalog}

/-- The simple lineages of an interface begin with the interface itself, and all others lead
elsewhere. -/
theorem exists_lineages_eq_cons (c : Catalog) (i : Interface) :
    ∃ rest, c.lineages i = .self i :: rest ∧ ∀ l ∈ rest, l.last.name ≠ i.name := by
  refine ⟨_, c.lineagesFrom_eq [i.name] i, fun l hl hname => ?_⟩
  obtain ⟨⟨parent, entry⟩, -, hl⟩ := List.mem_flatMap.mp hl
  obtain ⟨j, rest, -, hnew, hrest, rfl⟩ := mem_lineagesThrough.mp hl
  obtain ⟨rfl, -, -, habove⟩ := mem_lineagesFrom.mp hrest
  -- All names behind the first one are new, also that of the last interface.
  have hmem : i.name ∈ rest.names := hname ▸ rest.last_name_mem_names
  rcases rest.mem_names_iff.mp hmem with hmem | hmem
  · exact habove i.name hmem (List.mem_cons_of_mem _ (List.mem_singleton_self _))
  · rw [List.mem_singleton.mp hmem] at hnew
    exact hnew (List.mem_singleton_self _)

/-- The endpoints of the root stand in front. -/
theorem ownEndpoints_resolve {root : String} {i : Interface} (h : c.find? root = some i) :
    i.ownEndpoints <+: (c.resolve root).value.endpoints ∧
      (c.resolve root).value.endpointsOf root = i.ownEndpoints := by
  obtain ⟨rest, hrest, hothers⟩ := c.exists_lineages_eq_cons i
  have hendpoints : (c.resolve root).value.endpoints =
      i.ownEndpoints ++ rest.flatMap Lineage.endpoints := by
    rw [value_endpoints_resolve h, hrest, List.flatMap_cons]
    rfl
  refine ⟨⟨_, hendpoints.symm⟩, ?_⟩
  rw [Report.endpointsOf, hendpoints]
  apply filter_append_eq_left
  · intro e he
    rw [beq_iff_eq, Interface.owner_of_mem_endpoints he, name_of_find? h]
  · intro e he
    obtain ⟨l, hl, he⟩ := List.mem_flatMap.mp he
    rw [beq_iff_eq, Interface.owner_of_mem_endpoints he, ← name_of_find? h]
    exact hothers l hl

/-- The failures of the root stand in front. -/
theorem ownFailures_resolve {root : String} {i : Interface} (h : c.find? root = some i) :
    i.ownFailures <+: (c.resolve root).value.failures ∧
      (c.resolve root).value.failuresOf root = i.ownFailures := by
  obtain ⟨rest, hrest, hothers⟩ := c.exists_lineages_eq_cons i
  obtain ⟨more, hmore, hmem⟩ := exists_foldl_appendNew_eq_append
    (rest.flatMap fun l => l.last.failures) i.ownFailures
  have hfailures : (c.resolve root).value.failures = i.ownFailures ++ more := by
    rw [value_failures_resolve h, hrest, List.flatMap_cons, List.foldl_append]
    exact hmore
  refine ⟨⟨more, hfailures.symm⟩, ?_⟩
  rw [Report.failuresOf, hfailures]
  apply filter_append_eq_left
  · intro f hf
    rw [beq_iff_eq, Interface.owner_of_mem_failures (Interface.mem_ownFailures.mp hf),
      name_of_find? h]
  · intro f hf
    obtain ⟨l, hl, hf⟩ := List.mem_flatMap.mp (hmem f hf)
    rw [beq_iff_eq, Interface.owner_of_mem_failures hf, ← name_of_find? h]
    exact hothers l hl

end Catalog

/-! ### An interface by itself -/

namespace Interface

variable (i : Interface)

/-- The report of an interface in a catalog without any other. -/
def lonelyReport : Report :=
  ((Catalog.ofList [i]).resolve i.name).value

theorem find?_lonely (name : String) :
    (Catalog.ofList [i]).find? name = if i.name = name then some i else none := by
  by_cases h : i.name = name <;> simp [Catalog.find?_ofList, h]

theorem find?_lonely_self : (Catalog.ofList [i]).find? i.name = some i := by
  rw [find?_lonely, if_pos rfl]

/-- There is nowhere to go from the only interface. -/
theorem lineages_lonely : (Catalog.ofList [i]).lineages i = [.self i] := by
  rw [Catalog.lineages, Catalog.lineagesFrom_eq, List.cons_inj_right, List.flatMap_eq_nil_iff]
  intro p _
  simp only [Catalog.lineagesThrough, find?_lonely]
  by_cases h : i.name = p.1 <;> simp [h]

theorem endpoints_lonelyReport : i.lonelyReport.endpoints = i.ownEndpoints := by
  rw [lonelyReport, Catalog.value_endpoints_resolve i.find?_lonely_self, lineages_lonely,
    List.flatMap_singleton]
  rfl

theorem failures_lonelyReport : i.lonelyReport.failures = i.ownFailures := by
  rw [lonelyReport, Catalog.value_failures_resolve i.find?_lonely_self, lineages_lonely,
    List.flatMap_singleton]
  rfl

/-- The only graph error that an interface can have by itself is that it lists its own name. -/
theorem graphErrors_lonelyReport :
    i.lonelyReport.graphErrors =
      if i.name ∈ i.parents then [.cyclic i.name i.name] else [] := by
  have hnodup : i.lonelyReport.graphErrors.Nodup := by
    rw [lonelyReport, Catalog.value_graphErrors_resolve i.find?_lonely_self]
    exact foldl_appendNew_nodup List.nodup_nil
  have hmem : ∀ e, e ∈ i.lonelyReport.graphErrors ↔
      i.name ∈ i.parents ∧ e = .cyclic i.name i.name := by
    intro e
    rw [lonelyReport, Catalog.mem_graphErrors_resolve i.find?_lonely_self, lineages_lonely]
    simp only [List.mem_singleton, exists_eq_left, Catalog.comesBack_self, find?_lonely,
      Lineage.last]
    constructor
    · intro he
      obtain ⟨parent, ⟨j, hparent, hj, -⟩, rfl⟩ := he
      by_cases hname : i.name = parent
      · subst hname
        exact ⟨hparent, rfl⟩
      · rw [if_neg hname] at hj
        cases hj
    · intro he
      obtain ⟨hparent, rfl⟩ := he
      exact ⟨i.name, ⟨i, hparent, if_pos rfl, rfl⟩, rfl⟩
  by_cases hself : i.name ∈ i.parents
  · rw [if_pos hself, ← List.perm_singleton,
      List.perm_ext_iff_of_nodup hnodup (List.nodup_singleton _)]
    intro e
    rw [hmem, List.mem_singleton, and_iff_right hself]
  · rw [if_neg hself, List.eq_nil_iff_forall_not_mem]
    exact fun e he => hself ((hmem e).mp he).1

end Interface

end ClientTraits
