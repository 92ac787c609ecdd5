import Mathlib.Data.List.Nodup
import ClientTraits.Resolution.Graph
import ClientTraits.Resolution.Report

/-!
# Recording findings

A walk tells its report one thing after another: an endpoint, a method's failure, or an error of
the graph. As a value each of them is a `Finding`, and what a report has in the end is read off the
list of all findings: the endpoints are appended, failures and graph errors are kept once each.
-/

namespace ClientTraits

/-! ### Values of logged computations -/

theorem Logged.value_mapM {α β : Type} (f : α → Logged β) (items : List α) :
    (items.mapM f).value = items.map fun a => (f a).value := by
  induction items with
  | nil => rfl
  | cons a rest ih =>
      rw [List.mapM_cons, Logged.value_bind, Logged.value_bind, Logged.value_pure, ih,
        List.map_cons]

/-! ### Lists without repetition -/

section AppendNew

variable {α : Type} [DecidableEq α]

theorem mem_appendNew {items : List α} {a b : α} : b ∈ appendNew items a ↔ b ∈ items ∨ b = a := by
  rw [appendNew]
  split
  · next h =>
      constructor
      · exact Or.inl
      · intro hb
        rcases hb with hb | rfl
        · exact hb
        · exact h
  · rw [List.mem_append, List.mem_singleton]

theorem appendNew_nodup {items : List α} {a : α} (h : items.Nodup) : (appendNew items a).Nodup := by
  rw [appendNew]
  split
  · exact h
  · next ha =>
      rw [List.nodup_append]
      refine ⟨h, List.nodup_singleton a, fun b hb c hc hbc => ?_⟩
      rw [List.mem_singleton.mp hc] at hbc
      exact ha (hbc ▸ hb)

theorem mem_foldl_appendNew {items start : List α} {b : α} :
    b ∈ items.foldl appendNew start ↔ b ∈ start ∨ b ∈ items := by
  induction items generalizing start with
  | nil => simp
  | cons a rest ih => rw [List.foldl_cons, ih, mem_appendNew, List.mem_cons, or_assoc]

theorem foldl_appendNew_nodup {items start : List α} (h : start.Nodup) :
    (items.foldl appendNew start).Nodup := by
  induction items generalizing start with
  | nil => exact h
  | cons a rest ih => exact ih (appendNew_nodup h)

/-- Leaving items out commutes with keeping each of them once. -/
theorem filter_foldl_appendNew (p : α → Bool) (items start : List α) :
    (items.foldl appendNew start).filter p =
      (items.filter p).foldl appendNew (start.filter p) := by
  induction items generalizing start with
  | nil => rfl
  | cons a rest ih =>
      rw [List.foldl_cons, ih, appendNew]
      by_cases hp : p a = true
      · -- An item that is not left out is known on both sides or new on both.
        have hmem : a ∈ start.filter p ↔ a ∈ start := by
          rw [List.mem_filter, and_iff_left hp]
        rw [List.filter_cons_of_pos hp, List.foldl_cons, appendNew]
        by_cases ha : a ∈ start
        · rw [if_pos ha, if_pos (hmem.mpr ha)]
        · rw [if_neg ha, if_neg (mt hmem.mp ha), List.filter_append, List.filter_cons_of_pos hp,
            List.filter_nil]
      · rw [List.filter_cons_of_neg hp]
        by_cases ha : a ∈ start
        · rw [if_pos ha]
        · rw [if_neg ha, List.filter_append, List.filter_cons_of_neg hp, List.filter_nil,
            List.append_nil]

/-- What was there before stays in front. -/
theorem exists_foldl_appendNew_eq_append (items start : List α) :
    ∃ more, items.foldl appendNew start = start ++ more ∧ ∀ a ∈ more, a ∈ items := by
  induction items generalizing start with
  | nil => exact ⟨[], (List.append_nil start).symm, fun _ h => absurd h List.not_mem_nil⟩
  | cons b rest ih =>
      obtain ⟨more, hmore, hmem⟩ := ih (appendNew start b)
      rw [List.foldl_cons, hmore, appendNew]
      by_cases hb : b ∈ start
      · rw [if_pos hb]
        exact ⟨more, rfl, fun a ha => List.mem_cons_of_mem b (hmem a ha)⟩
      · rw [if_neg hb]
        refine ⟨b :: more, List.append_assoc start [b] more, ?_⟩
        exact List.forall_mem_cons.mpr
          ⟨List.mem_cons_self, fun a ha => List.mem_cons_of_mem b (hmem a ha)⟩

end AppendNew

/-! ### Findings -/

/-- Something that a walk tells its report. -/
inductive Finding
  | endpoint (e : Endpoint)
  | failure (f : MethodFailure)
  | graphError (e : GraphError)
  deriving DecidableEq, Repr

namespace Finding

/-- The endpoint that is found. -/
def endpoint? : Finding → Option Endpoint
  | endpoint e => some e
  | _ => none

/-- The failure that is found. -/
def failure? : Finding → Option MethodFailure
  | failure f => some f
  | _ => none

/-- The graph error that is found. -/
def graphError? : Finding → Option GraphError
  | graphError e => some e
  | _ => none

/-- What there is to tell about a method under some settings. -/
def ofMethod (settings : Fragment) : Signature × Except Defect Call → Finding
  | (signature, .ok c) => endpoint (.ofCall signature (settings.apply c))
  | (signature, .error defect) => failure ⟨signature, defect⟩

end Finding

namespace Report

/-- The report after one finding. -/
def record (r : Report) : Finding → Logged Report
  | .endpoint e => r.recordEndpoint e
  | .failure f => pure (r.recordFailure f)
  | .graphError e => pure (r.recordGraphError e)

theorem value_recordEndpoint (r : Report) (e : Endpoint) :
    (r.recordEndpoint e).value = { r with endpoints := r.endpoints ++ [e] } := by
  rw [recordEndpoint]
  split <;> rfl

variable (r : Report) (findings : List Finding)

theorem root_foldlM_record : (findings.foldlM record r).value.root = r.root := by
  induction findings generalizing r with
  | nil => rfl
  | cons f rest ih =>
      rw [List.foldlM_cons, Logged.value_bind, ih]
      cases f with
      | endpoint e => rw [record, value_recordEndpoint]
      | failure f => rfl
      | graphError e => rfl

theorem endpoints_foldlM_record :
    (findings.foldlM record r).value.endpoints =
      r.endpoints ++ findings.filterMap Finding.endpoint? := by
  induction findings generalizing r with
  | nil => exact (List.append_nil _).symm
  | cons f rest ih =>
      rw [List.foldlM_cons, Logged.value_bind, ih]
      cases f with
      | endpoint e =>
          rw [record, value_recordEndpoint]
          exact List.append_assoc r.endpoints [e] _
      | failure f => rfl
      | graphError e => rfl

theorem failures_foldlM_record :
    (findings.foldlM record r).value.failures =
      (findings.filterMap Finding.failure?).foldl appendNew r.failures := by
  induction findings generalizing r with
  | nil => rfl
  | cons f rest ih =>
      rw [List.foldlM_cons, Logged.value_bind, ih]
      cases f with
      | endpoint e => rw [record, value_recordEndpoint]; rfl
      | failure f => rfl
      | graphError e => rfl

theorem graphErrors_foldlM_record :
    (findings.foldlM record r).value.graphErrors =
      (findings.filterMap Finding.graphError?).foldl appendNew r.graphErrors := by
  induction findings generalizing r with
  | nil => rfl
  | cons f rest ih =>
      rw [List.foldlM_cons, Logged.value_bind, ih]
      cases f with
      | endpoint e => rw [record, value_recordEndpoint]; rfl
      | failure f => rfl
      | graphError e => rfl

end Report

/-! ### What an interface has to tell -/

namespace Interface

/-- The methods with their signatures and their settings or defects. -/
def outcomes (i : Interface) : List (Signature × Except Defect Call) :=
  i.methods.map fun m => (m.signature i.name, m.call.value)

/-- What there is to tell about the methods under some settings. -/
def findings (i : Interface) (settings : Fragment) : List Finding :=
  i.outcomes.map (Finding.ofMethod settings)

/-- The endpoints of the methods without a defect under some settings. -/
def endpoints (i : Interface) (settings : Fragment) : List Endpoint :=
  i.methods.filterMap fun m =>
    match m.call.value with
    | .ok c => some (.ofCall (m.signature i.name) (settings.apply c))
    | .error _ => none

/-- The failures of the methods with a defect. -/
def failures (i : Interface) : List MethodFailure :=
  i.methods.filterMap fun m =>
    match m.call.value with
    | .ok _ => none
    | .error defect => some ⟨m.signature i.name, defect⟩

theorem value_collectMethods (i : Interface) : i.collectMethods.value = i.outcomes :=
  Logged.value_mapM i.collectMethod i.methods

theorem filterMap_endpoint?_findings (i : Interface) (settings : Fragment) :
    (i.findings settings).filterMap Finding.endpoint? = i.endpoints settings := by
  rw [findings, outcomes, List.map_map, List.filterMap_map, endpoints]
  congr 1
  funext m
  simp only [Function.comp_apply]
  cases m.call.value <;> rfl

theorem filterMap_failure?_findings (i : Interface) (settings : Fragment) :
    (i.findings settings).filterMap Finding.failure? = i.failures := by
  rw [findings, outcomes, List.map_map, List.filterMap_map, failures]
  congr 1
  funext m
  simp only [Function.comp_apply]
  cases m.call.value <;> rfl

theorem filterMap_graphError?_findings (i : Interface) (settings : Fragment) :
    (i.findings settings).filterMap Finding.graphError? = [] := by
  rw [findings, outcomes, List.map_map, List.filterMap_map, List.filterMap_eq_nil_iff]
  intro m _
  simp only [Function.comp_apply]
  cases m.call.value <;> rfl

end Interface

end ClientTraits
