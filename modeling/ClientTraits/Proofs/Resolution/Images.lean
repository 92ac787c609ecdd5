import ClientTraits.Proofs.Resolution.Cycles
import ClientTraits.Proofs.Resolution.Report

/-!
# Catalogs with changed declarations

Two catalogs may differ in what their declarations say about settings or methods, but not in who
extends whom: each declaration of the second one is the image of one of the first
(`Catalog.IsImage`). Then a walk takes the same way through both. Their simple lineages correspond
(`IsImage.lineages`), they have the same graph errors (`IsImage.value_graphErrors`), and what is
recorded is recorded at the same places. To say the last, `Catalog.occurrences` lists each endpoint
of a report together with the lineage on which it was recorded.
-/

namespace ClientTraits

/-! ### Images of lineages -/

namespace Lineage

variable {f : Interface → Interface}

/-- The lineage with the image of each interface in its place. -/
def map (f : Interface → Interface) : Lineage → Lineage
  | self i => self (f i)
  | via i entry rest => via (f i) entry (rest.map f)

@[simp]
theorem last_map (l : Lineage) : (l.map f).last = f l.last := by
  induction l with
  | self i => rfl
  | via i entry rest ih => exact ih

@[simp]
theorem interfaces_map (l : Lineage) : (l.map f).interfaces = l.interfaces.map f := by
  induction l with
  | self i => rfl
  | via i entry rest ih => exact congrArg (f i :: ·) ih

@[simp]
theorem entries_map (l : Lineage) : (l.map f).entries = l.entries := by
  induction l with
  | self i => rfl
  | via i entry rest ih => exact congrArg (entry :: ·) ih

theorem names_map (hname : ∀ i, (f i).name = i.name) (l : Lineage) : (l.map f).names = l.names := by
  rw [names, names, interfaces_map, List.map_map]
  exact List.map_congr_left fun i _ => hname i

/-- What is not changed on a lineage leaves the lineage as it is. -/
theorem map_eq_self {l : Lineage} (h : ∀ i ∈ l.interfaces, f i = i) : l.map f = l := by
  induction l with
  | self i => exact congrArg self (h i (List.mem_singleton_self i))
  | via i entry rest ih =>
      rw [map, h i List.mem_cons_self, ih fun j hj => h j (List.mem_cons_of_mem i hj)]

end Lineage

/-! ### Occurrences of endpoints -/

/-- The methods without a defect, with their signatures and their settings. -/
def Interface.calls (i : Interface) : List (Signature × Call) :=
  i.methods.filterMap fun m =>
    match m.call.value with
    | .ok call => some (m.signature i.name, call)
    | .error _ => none

theorem Interface.endpoints_eq_map_calls (i : Interface) (settings : Fragment) :
    i.endpoints settings =
      i.calls.map fun (signature, call) => .ofCall signature (settings.apply call) := by
  rw [calls, List.map_filterMap, endpoints]
  congr 1
  funext m
  cases m.call.value <;> rfl

/-- A method that is recorded, and the lineage on which the walk has come to it. -/
structure Occurrence where
  path : Lineage
  signature : Signature
  call : Call

namespace Occurrence

/-- What is recorded. -/
def endpoint (o : Occurrence) : Endpoint :=
  .ofCall o.signature ((sharedSettings o.path.interfaces).apply o.call)

/-- The same method on the image of the lineage. -/
def map (f : Interface → Interface) (o : Occurrence) : Occurrence :=
  { o with path := o.path.map f }

end Occurrence

/-- The occurrences at the end of a lineage. -/
def Lineage.occurrences (l : Lineage) : List Occurrence :=
  l.last.calls.map fun (signature, call) => ⟨l, signature, call⟩

theorem Lineage.map_endpoint_occurrences (l : Lineage) :
    l.occurrences.map Occurrence.endpoint = l.endpoints := by
  rw [occurrences, List.map_map, endpoints, Interface.endpoints_eq_map_calls]
  rfl

namespace Catalog

/-- The occurrences in the order in which the walk below a root comes to them. -/
def occurrences (c : Catalog) (root : String) : List Occurrence :=
  (c.find? root).toList.flatMap fun i => (c.lineages i).flatMap Lineage.occurrences

/-- The endpoints of a report are those of the occurrences. -/
theorem map_endpoint_occurrences (c : Catalog) (root : String) :
    (c.occurrences root).map Occurrence.endpoint = (c.resolve root).value.endpoints := by
  rw [occurrences]
  cases h : c.find? root with
  | none =>
      rw [resolve_of_undeclared h]
      rfl
  | some i =>
      rw [value_endpoints_resolve h, Option.toList_some, List.flatMap_singleton, List.map_flatMap]
      exact List.flatMap_congr fun l _ => l.map_endpoint_occurrences

/-! ### Images of catalogs -/

/-- Each declaration of `c'` is the image of one of `c`, under the same name and with the same
parents. -/
structure IsImage (c c' : Catalog) (f : Interface → Interface) : Prop where
  find? : ∀ name, c'.find? name = (c.find? name).map f
  name : ∀ i, (f i).name = i.name
  parents : ∀ i, (f i).parents = i.parents

namespace IsImage

variable {c c' : Catalog} {f : Interface → Interface}

theorem lineagesFrom (h : c.IsImage c' f) (seen : List String) (i : Interface) :
    c'.lineagesFrom seen (f i) = (c.lineagesFrom seen i).map (Lineage.map f) := by
  induction seen, i using c.unseen_induction with
  | step seen i ih =>
      rw [lineagesFrom_eq, lineagesFrom_eq, List.map_cons, List.map_flatMap, h.parents, Lineage.map]
      congr 1
      refine List.flatMap_congr fun ⟨parent, entry⟩ _ => ?_
      simp only [lineagesThrough, h.find?]
      cases hj : c.find? parent with
      | none => rfl
      | some j =>
          -- The image has the name of `j`, so that both are seen or neither is.
          simp only [Option.map_some, h.name]
          by_cases hseen : j.name ∈ seen
          · simp only [if_pos hseen]
            rfl
          · simp only [if_neg hseen]
            rw [ih parent j hj hseen, List.map_map, List.map_map]
            rfl

/-- The simple lineages are the images of the simple lineages, in the same order. -/
theorem lineages (h : c.IsImage c' f) (i : Interface) :
    c'.lineages (f i) = (c.lineages i).map (Lineage.map f) := by
  rw [Catalog.lineages, h.name, h.lineagesFrom]
  rfl

/-- Graph errors do not depend on the settings that a walk gathers. -/
theorem graphErrors_findingsFrom (h : c.IsImage c' f) (seen : List String)
    (settings settings' : Fragment) (i : Interface) :
    (c'.findingsFrom seen settings' (f i)).filterMap Finding.graphError? =
      (c.findingsFrom seen settings i).filterMap Finding.graphError? := by
  induction seen, i using c.unseen_induction generalizing settings settings' with
  | step seen i ih =>
      rw [findingsFrom_eq, findingsFrom_eq, List.filterMap_append, List.filterMap_append,
        Interface.filterMap_graphError?_findings, Interface.filterMap_graphError?_findings,
        List.filterMap_flatMap, List.filterMap_flatMap, h.parents]
      congr 1
      refine List.flatMap_congr fun parent _ => ?_
      simp only [findingsThrough, h.find?, h.name]
      cases hj : c.find? parent with
      | none => rfl
      | some j =>
          simp only [Option.map_some, h.name]
          by_cases hseen : j.name ∈ seen
          · simp only [if_pos hseen]
          · simp only [if_neg hseen]
            exact ih parent j hj hseen _ _

theorem find?_eq_none (h : c.IsImage c' f) {root : String} (hroot : c.find? root = none) :
    c'.find? root = none := by
  rw [h.find?, hroot]
  rfl

theorem find?_eq_some (h : c.IsImage c' f) {root : String} {i : Interface}
    (hroot : c.find? root = some i) : c'.find? root = some (f i) := by
  rw [h.find?, hroot]
  rfl

theorem value_graphErrors (h : c.IsImage c' f) (root : String) :
    (c'.resolve root).value.graphErrors = (c.resolve root).value.graphErrors := by
  cases hroot : c.find? root with
  | none => rw [resolve_of_undeclared hroot, resolve_of_undeclared (h.find?_eq_none hroot)]
  | some i =>
      rw [value_graphErrors_resolve hroot, value_graphErrors_resolve (h.find?_eq_some hroot),
        findings, findings, h.name, h.graphErrors_findingsFrom]

section SameMethods

variable (h : c.IsImage c' f) (hmethods : ∀ i, (f i).methods = i.methods)
include h hmethods

theorem value_failures (root : String) :
    (c'.resolve root).value.failures = (c.resolve root).value.failures := by
  have hfailures : ∀ i, (f i).failures = i.failures := by
    intro i
    rw [Interface.failures, hmethods, h.name]
    rfl
  cases hroot : c.find? root with
  | none => rw [resolve_of_undeclared hroot, resolve_of_undeclared (h.find?_eq_none hroot)]
  | some i =>
      rw [value_failures_resolve hroot, value_failures_resolve (h.find?_eq_some hroot), h.lineages,
        List.flatMap_map]
      simp only [Lineage.last_map, hfailures]

/-- The same methods are recorded on images of the same lineages. -/
theorem occurrences (root : String) :
    c'.occurrences root = (c.occurrences root).map (Occurrence.map f) := by
  have hcalls : ∀ i, (f i).calls = i.calls := by
    intro i
    rw [Interface.calls, hmethods, h.name]
    rfl
  rw [Catalog.occurrences, Catalog.occurrences, h.find?]
  cases c.find? root with
  | none => rfl
  | some i =>
      simp only [Option.map_some, Option.toList_some, List.flatMap_singleton]
      rw [h.lineages, List.flatMap_map, List.map_flatMap]
      refine List.flatMap_congr fun l _ => ?_
      rw [Lineage.occurrences, Lineage.occurrences, Lineage.last_map, hcalls, List.map_map]
      rfl

end SameMethods

end IsImage

end Catalog

end ClientTraits
