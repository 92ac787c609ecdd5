import Mathlib.Data.List.Basic
import ClientTraits.Proofs.Resolution.Walk

/-!
# What a report holds

The findings below an interface, read off its simple lineages. For each lineage a walk tells about
the methods of the interface that the lineage leads to, under the settings of all interfaces that
the lineage meets (`filterMap_findingsFrom`). So the report of a declared root

* has the endpoints of all simple lineages in depth-first order (`endpoints_resolve`), and
* covers what the root reaches, neither less nor more (`resolve_covers_reachable`).
-/

namespace ClientTraits

/-! ### Findings by lineage -/

/-- The settings of interfaces merged from left to right. -/
def sharedSettings : List Interface → Fragment
  | [] => .empty
  | i :: rest => rest.foldl (fun settings j => settings.merge j.shared) i.shared

/-- Merging may as well begin with no settings. -/
theorem sharedSettings_eq_foldl (interfaces : List Interface) :
    sharedSettings interfaces =
      interfaces.foldl (fun settings j => settings.merge j.shared) .empty := by
  cases interfaces <;> rfl

namespace Lineage

/-- The settings gathered along the lineage, after those of `start`. -/
def settingsFrom (start : Fragment) (l : Lineage) : Fragment :=
  l.interfaces.foldl (fun settings i => settings.merge i.shared) start

/-- The endpoints of the interface that the lineage leads to. -/
def endpoints (l : Lineage) : List Endpoint :=
  l.last.endpoints (sharedSettings l.interfaces)

end Lineage

namespace Catalog

/-- What is found about methods is found once for each simple lineage, in their order. -/
theorem filterMap_findingsFrom (c : Catalog) {α : Type} {select : Finding → Option α}
    (hselect : ∀ e, select (.graphError e) = none) (seen : List String) (start : Fragment)
    (i : Interface) :
    (c.findingsFrom seen start i).filterMap select =
      (c.lineagesFrom seen i).flatMap fun l =>
        (l.last.findings (l.settingsFrom start)).filterMap select := by
  induction seen, i using c.unseen_induction generalizing start with
  | step seen i ih =>
      -- Lineages number the parents that findings go over, but only to tell them apart.
      have hparents : ∀ f : String → List α,
          i.parents.flatMap f = i.parents.zipIdx.flatMap fun p => f p.1 := by
        intro f
        conv_lhs => rw [← List.zipIdx_map_fst 0 i.parents, List.flatMap_map]
      rw [findingsFrom_eq, lineagesFrom_eq, List.filterMap_append, List.flatMap_cons,
        List.filterMap_flatMap, List.flatMap_assoc, hparents]
      congr 1
      refine List.flatMap_congr fun ⟨parent, entry⟩ _ => ?_
      simp only [findingsThrough, lineagesThrough]
      cases hj : c.find? parent with
      | none => rfl
      | some j =>
          by_cases hseen : j.name ∈ seen
          · -- There is no lineage through a parent that was seen, and only a graph error.
            simp only [if_pos hseen]
            rw [List.filterMap_cons_none (hselect _)]
            rfl
          · simp only [if_neg hseen]
            rw [ih parent j hj hseen, List.flatMap_map]
            rfl

/-- The endpoints of a report are those of the simple lineages. -/
theorem value_endpoints_resolve {c : Catalog} {root : String} {i : Interface}
    (h : c.find? root = some i) :
    (c.resolve root).value.endpoints = (c.lineages i).flatMap Lineage.endpoints := by
  rw [value_resolve h, Report.endpoints_foldlM_record, findings, filterMap_findingsFrom]
  · rw [Report.start, List.nil_append]
    refine List.flatMap_congr fun l _ => ?_
    rw [Interface.filterMap_endpoint?_findings, Lineage.endpoints, sharedSettings_eq_foldl]
    rfl
  · exact fun e => rfl

/-- The failures of a report are those of the interfaces that simple lineages lead to, once each. -/
theorem value_failures_resolve {c : Catalog} {root : String} {i : Interface}
    (h : c.find? root = some i) :
    (c.resolve root).value.failures =
      ((c.lineages i).flatMap fun l => l.last.failures).foldl appendNew [] := by
  rw [value_resolve h, Report.failures_foldlM_record, findings, filterMap_findingsFrom]
  · simp only [Interface.filterMap_failure?_findings]
    rfl
  · exact fun e => rfl

/-! ### Endpoints -/

/-- **Endpoints by lineage.** The endpoints in the report of a declared root are those of all simple
lineages in the catalog, in the strict order of the entries that the lineages take. -/
theorem endpoints_resolve {c : Catalog} {root : String} {i : Interface}
    (h : c.find? root = some i) :
    (c.resolve root).value.endpoints = (c.lineages i).flatMap Lineage.endpoints ∧
      (∀ l, l ∈ c.lineages i ↔ l.first = i ∧ l.IsIn c ∧ l.names.Nodup) ∧
      (c.lineages i).Pairwise fun a b => a.entries < b.entries :=
  ⟨value_endpoints_resolve h, fun _ => mem_lineages, c.lineages_pairwise_lt i⟩

theorem endpoints_resolve_tangledCatalog :
    tangledCatalog.find? "Api" = some tangledRoot ∧
      (tangledCatalog.resolve "Api").value.endpoints =
        (tangledCatalog.lineages tangledRoot).flatMap Lineage.endpoints ∧
      (∀ l, l ∈ tangledCatalog.lineages tangledRoot ↔
        l.first = tangledRoot ∧ l.IsIn tangledCatalog ∧ l.names.Nodup) ∧
      (tangledCatalog.lineages tangledRoot).Pairwise fun a b => a.entries < b.entries :=
  ⟨by decide, endpoints_resolve (by decide)⟩

/-! ### Coverage -/

theorem mem_endpoints {j : Interface} {settings : Fragment} {e : Endpoint} :
    e ∈ j.endpoints settings ↔ ∃ m ∈ j.methods, ∃ call, m.call.value = .ok call ∧
      e = .ofCall (m.signature j.name) (settings.apply call) := by
  rw [Interface.endpoints, List.mem_filterMap]
  refine exists_congr fun m => and_congr_right fun _ => ?_
  cases m.call.value with
  | ok call =>
      constructor
      · intro he
        exact ⟨call, rfl, (Option.some.inj he).symm⟩
      · intro he
        obtain ⟨_, hcall, rfl⟩ := he
        cases hcall
        rfl
  | error defect =>
      constructor
      · intro he
        cases he
      · intro he
        obtain ⟨_, hcall, -⟩ := he
        cases hcall

theorem mem_failures {j : Interface} {f : MethodFailure} :
    f ∈ j.failures ↔ ∃ m ∈ j.methods, m.signature j.name = f.signature ∧
      m.call.value = .error f.defect := by
  rw [Interface.failures, List.mem_filterMap]
  refine exists_congr fun m => and_congr_right fun _ => ?_
  cases m.call.value with
  | ok call =>
      constructor
      · intro hf
        cases hf
      · intro hf
        obtain ⟨-, hdefect⟩ := hf
        cases hdefect
  | error defect =>
      constructor
      · intro hf
        cases hf
        exact ⟨rfl, rfl⟩
      · intro hf
        obtain ⟨hsignature, hdefect⟩ := hf
        cases f
        cases hsignature
        cases hdefect
        rfl

/-- **The report covers what the root reaches.** It has each failure of a method there once, an
endpoint for each method there without a defect, and nothing else. -/
theorem resolve_covers_reachable {c : Catalog} {root : String} {i : Interface}
    (h : c.find? root = some i) :
    (c.resolve root).value.failures.Nodup ∧
      (∀ f, f ∈ (c.resolve root).value.failures ↔
        ∃ j, c.Reaches i j ∧ ∃ m ∈ j.methods, m.signature j.name = f.signature ∧
          m.call.value = .error f.defect) ∧
      (∀ j, c.Reaches i j → ∀ m ∈ j.methods, ∀ call, m.call.value = .ok call →
        ∃ e ∈ (c.resolve root).value.endpoints, e.signature = m.signature j.name) ∧
      ∀ e ∈ (c.resolve root).value.endpoints,
        ∃ j, c.Reaches i j ∧ ∃ m ∈ j.methods, e.signature = m.signature j.name ∧
          ∃ call, m.call.value = .ok call := by
  have hi : c.find? i.name = some i := by rw [name_of_find? h, h]
  rw [value_failures_resolve h, value_endpoints_resolve h]
  refine ⟨foldl_appendNew_nodup List.nodup_nil, ?_, ?_, ?_⟩
  · -- A failure is kept if some lineage leads to it, and it takes one to reach it.
    intro f
    rw [mem_foldl_appendNew, List.mem_flatMap]
    constructor
    · intro hf
      rcases hf with hf | ⟨l, hl, hf⟩
      · exact absurd hf List.not_mem_nil
      · exact ⟨l.last, (reaches_iff_exists_lineage hi).mpr ⟨l, hl, rfl⟩, mem_failures.mp hf⟩
    · intro hf
      obtain ⟨j, hj, hf⟩ := hf
      obtain ⟨l, hl, rfl⟩ := exists_lineage_of_reaches hi hj
      exact Or.inr ⟨l, hl, mem_failures.mpr hf⟩
  · intro j hj m hm call hcall
    obtain ⟨l, hl, rfl⟩ := exists_lineage_of_reaches hi hj
    refine ⟨_, List.mem_flatMap.mpr ⟨l, hl, mem_endpoints.mpr ⟨m, hm, call, hcall, rfl⟩⟩, rfl⟩
  · intro e he
    obtain ⟨l, hl, he⟩ := List.mem_flatMap.mp he
    obtain ⟨m, hm, call, hcall, rfl⟩ := mem_endpoints.mp he
    exact ⟨l.last, (reaches_iff_exists_lineage hi).mpr ⟨l, hl, rfl⟩, m, hm, rfl, call, hcall⟩

/-- The failure at the end of several lineages is there, and only once. -/
theorem failures_resolve_tangledCatalog :
    tangledCatalog.find? "Api" = some tangledRoot ∧
      tangledCatalog.Reaches tangledRoot (layer "Base" ["Base", "Left"] false) ∧
      ⟨⟨"Base", "status", []⟩, .notAsync⟩ ∈ (tangledCatalog.resolve "Api").value.failures ∧
      (tangledCatalog.resolve "Api").value.failures.Nodup := by
  have hroot : tangledCatalog.find? "Api" = some tangledRoot := by decide
  have hreach : tangledCatalog.Reaches tangledRoot (layer "Base" ["Base", "Left"] false) :=
    .head (b := layer "Left" ["Base"] true) ⟨"Left", by decide, by decide⟩
      (.single ⟨"Base", by decide, by decide⟩)
  obtain ⟨hnodup, hfailures, -, -⟩ := resolve_covers_reachable hroot
  refine ⟨hroot, hreach, (hfailures _).mpr ?_, hnodup⟩
  exact ⟨_, hreach, statusMethod false, List.mem_singleton_self _, rfl, rfl⟩

end Catalog

end ClientTraits
