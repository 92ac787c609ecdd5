import Mathlib.Data.Finset.Card
import ClientTraits.Proofs.Resolution.Notices
import ClientTraits.Proofs.Resolution.Walk

/-!
# What is recorded again

A signature that is recorded again is noticed twice, by means that have nothing in common: a report
warns when it records an endpoint whose signature it has (`Report.recordEndpoint`), and afterwards
the endpoints are searched for second occurrences (`Report.duplicates`). Both are told here by what
stands before an item in the list of recorded signatures (`filterByPast`): warned is about each item
that has occurred before (`filter_events_resolve`), and found is each item that has occurred exactly
once (`secondOccurrences_eq`).
-/

namespace ClientTraits

/-! ### Items and their past -/

section Past

variable {α : Type}

/-- The items that are to be kept in view of what stands before them, which begins with `past`. -/
def filterByPast (keep : List α → α → Bool) (past : List α) : List α → List α
  | [] => []
  | a :: rest =>
    if keep past a then a :: filterByPast keep (past ++ [a]) rest
    else filterByPast keep (past ++ [a]) rest

variable [DecidableEq α]

/-- Each item either occurs for the first time or has occurred before. -/
theorem length_filterByPast_contains (past items : List α) :
    (filterByPast List.contains past items).length + (past ++ items).toFinset.card =
      items.length + past.toFinset.card := by
  induction items generalizing past with
  | nil => rw [filterByPast, List.append_nil]
  | cons a rest ih =>
      have hrest := ih (past ++ [a])
      have hset : (past ++ [a]).toFinset = insert a past.toFinset := by
        rw [List.toFinset_append, Finset.union_comm]
        rfl
      rw [List.append_assoc, List.singleton_append, hset] at hrest
      rw [filterByPast, List.length_cons]
      by_cases ha : a ∈ past
      · rw [Finset.insert_eq_of_mem (List.mem_toFinset.mpr ha)] at hrest
        rw [if_pos (List.contains_iff_mem.mpr ha), List.length_cons]
        omega
      · rw [Finset.card_insert_of_notMem (mt List.mem_toFinset.mp ha)] at hrest
        rw [if_neg (mt List.contains_iff_mem.mp ha)]
        omega

/-- What a search for second occurrences knows about the items that it has passed: which there are,
and which of them have occurred more than once. -/
structure Tracks (past seen reported : List α) : Prop where
  seen : ∀ a, a ∈ seen ↔ a ∈ past
  reported : ∀ a, a ∈ reported ↔ 2 ≤ past.count a

namespace Tracks

variable {past seen reported : List α} {b : α}

theorem nil : Tracks ([] : List α) [] [] where
  seen _ := Iff.rfl
  reported _ := by simp

theorem count_append_singleton (a : α) :
    (past ++ [b]).count a = past.count a + if b = a then 1 else 0 := by
  rw [List.count_append, List.count_singleton]
  simp

/-- The item occurs for the first time. -/
theorem first (h : Tracks past seen reported) (hb : b ∉ seen) :
    past.count b = 0 ∧ Tracks (past ++ [b]) (b :: seen) reported := by
  have hcount : past.count b = 0 := List.count_eq_zero_of_not_mem (mt (h.seen b).mpr hb)
  refine ⟨hcount, fun a => ?_, fun a => ?_⟩
  · rw [List.mem_cons, h.seen, List.mem_append, List.mem_singleton, or_comm]
  · rw [h.reported, count_append_singleton]
    by_cases ha : b = a
    · subst ha
      rw [if_pos rfl]
      omega
    · rw [if_neg ha, Nat.add_zero]

/-- The item has occurred once. -/
theorem second (h : Tracks past seen reported) (hb : b ∈ seen) (hnew : b ∉ reported) :
    past.count b = 1 ∧ Tracks (past ++ [b]) seen (b :: reported) := by
  have hpos : 0 < past.count b := List.count_pos_iff.mpr ((h.seen b).mp hb)
  have hlt : ¬ 2 ≤ past.count b := mt (h.reported b).mpr hnew
  refine ⟨by omega, fun a => ?_, fun a => ?_⟩
  · rw [h.seen, List.mem_append, List.mem_singleton, or_iff_left_of_imp]
    rintro rfl
    exact (h.seen a).mp hb
  · rw [List.mem_cons, h.reported, count_append_singleton]
    by_cases ha : b = a
    · subst ha
      rw [if_pos rfl]
      exact iff_of_true (Or.inl rfl) (by omega)
    · rw [if_neg ha, Nat.add_zero, or_iff_right (Ne.symm ha)]

/-- The item has occurred more than once. -/
theorem again (h : Tracks past seen reported) (hb : b ∈ reported) :
    2 ≤ past.count b ∧ Tracks (past ++ [b]) seen reported := by
  have hcount : 2 ≤ past.count b := (h.reported b).mp hb
  have hmem : b ∈ past := List.count_pos_iff.mp (Nat.lt_of_lt_of_le Nat.zero_lt_two hcount)
  refine ⟨hcount, fun a => ?_, fun a => ?_⟩
  · rw [h.seen, List.mem_append, List.mem_singleton, or_iff_left_of_imp]
    rintro rfl
    exact hmem
  · rw [h.reported, count_append_singleton]
    by_cases ha : b = a
    · subst ha
      rw [if_pos rfl]
      omega
    · rw [if_neg ha, Nat.add_zero]

theorem secondOccurrences_eq (h : Tracks past seen reported) (items : List α) :
    secondOccurrences seen reported items =
      filterByPast (fun past a => past.count a == 1) past items := by
  induction items generalizing past seen reported with
  | nil => rfl
  | cons b rest ih =>
      rw [secondOccurrences, filterByPast]
      by_cases hb : b ∈ seen
      · rw [if_pos hb]
        by_cases hnew : b ∈ reported
        · obtain ⟨hcount, hnext⟩ := h.again hnew
          rw [if_pos hnew, ih hnext, if_neg]
          rw [beq_iff_eq]
          omega
        · obtain ⟨hcount, hnext⟩ := h.second hb hnew
          rw [if_neg hnew, ih hnext, if_pos (beq_iff_eq.mpr hcount)]
      · obtain ⟨hcount, hnext⟩ := h.first hb
        rw [if_neg hb, ih hnext, if_neg]
        rw [beq_iff_eq]
        omega

theorem mem_secondOccurrences (h : Tracks past seen reported) {items : List α} {a : α} :
    a ∈ secondOccurrences seen reported items ↔
      a ∉ reported ∧ 2 ≤ (past ++ items).count a := by
  induction items generalizing past seen reported with
  | nil =>
      rw [secondOccurrences, List.append_nil, h.reported]
      simp
  | cons b rest ih =>
      have hpast : past ++ b :: rest = (past ++ [b]) ++ rest := by
        rw [List.append_assoc, List.singleton_append]
      rw [secondOccurrences, hpast]
      by_cases hb : b ∈ seen
      · rw [if_pos hb]
        by_cases hnew : b ∈ reported
        · rw [if_pos hnew, ih (h.again hnew).2]
        · obtain ⟨hcount, hnext⟩ := h.second hb hnew
          rw [if_neg hnew, List.mem_cons, ih hnext, List.mem_cons, not_or]
          by_cases ha : a = b
          · subst ha
            have htwo : 2 ≤ (past ++ [a]).count a := (hnext.reported a).mp List.mem_cons_self
            rw [List.count_append]
            exact iff_of_true (Or.inl rfl) ⟨hnew, by omega⟩
          · rw [or_iff_right ha, and_iff_right ha]
      · rw [if_neg hb, ih (h.first hb).2]

theorem nodup_secondOccurrences (h : Tracks past seen reported) (items : List α) :
    (secondOccurrences seen reported items).Nodup := by
  induction items generalizing past seen reported with
  | nil => exact List.nodup_nil
  | cons b rest ih =>
      rw [secondOccurrences]
      by_cases hb : b ∈ seen
      · rw [if_pos hb]
        by_cases hnew : b ∈ reported
        · rw [if_pos hnew]
          exact ih (h.again hnew).2
        · have hnext := (h.second hb hnew).2
          rw [if_neg hnew, List.nodup_cons, hnext.mem_secondOccurrences]
          exact ⟨fun hmem => hmem.1 List.mem_cons_self, ih hnext⟩
      · rw [if_neg hb]
        exact ih (h.first hb).2

end Tracks

end Past

/-! ### Warnings of a report -/

/-- The event tells that an endpoint was recorded under a signature that had one before. -/
def Event.isRecordedAgain : Event → Bool
  | .recordedAgain _ _ => true
  | _ => false

namespace Report

/-- The signatures of the endpoints, as often as they were recorded. -/
def signatures (r : Report) : List Signature :=
  r.endpoints.map Endpoint.signature

theorem isSome_endpoint?_iff (r : Report) (s : Signature) :
    (r.endpoint? s).isSome ↔ s ∈ r.signatures := by
  rw [endpoint?, List.find?_isSome, signatures, List.mem_map]
  simp only [beq_iff_eq]

theorem events_recordEndpoint (r : Report) (e : Endpoint) :
    (r.recordEndpoint e).events =
      if r.signatures.contains e.signature then [.recordedAgain r.root e.signature] else [] := by
  rw [recordEndpoint]
  by_cases h : e.signature ∈ r.signatures
  · rw [if_pos ((r.isSome_endpoint?_iff _).mpr h), if_pos (List.contains_iff_mem.mpr h)]
    rfl
  · rw [if_neg (mt (r.isSome_endpoint?_iff _).mp h), if_neg (mt List.contains_iff_mem.mp h)]
    rfl

/-- There is a warning for each endpoint whose signature was recorded before. -/
theorem events_foldlM_record (r : Report) (findings : List Finding) :
    (findings.foldlM record r).events =
      (filterByPast List.contains r.signatures
        ((findings.filterMap Finding.endpoint?).map Endpoint.signature)).map
          (.recordedAgain r.root) := by
  induction findings generalizing r with
  | nil => rfl
  | cons f rest ih =>
      rw [List.foldlM_cons, Logged.events_bind, ih]
      cases f with
      | endpoint e =>
          have hnext : (r.recordEndpoint e).value.signatures = r.signatures ++ [e.signature] := by
            rw [value_recordEndpoint]
            exact List.map_append
          have hfound : (Finding.endpoint e :: rest).filterMap Finding.endpoint? =
              e :: rest.filterMap Finding.endpoint? := rfl
          rw [record, events_recordEndpoint, hnext, value_recordEndpoint, hfound, List.map_cons,
            filterByPast]
          split <;> rfl
      | failure f => rfl
      | graphError e => rfl

end Report

/-! ### Warnings of a resolution -/

namespace Catalog

theorem isRecordedAgain_of_mem_notices {c : Catalog} {i : Interface} :
    ∀ e ∈ c.notices i, e.isRecordedAgain = false := by
  refine List.forall_mem_append.mpr ⟨List.forall_mem_flatMap.mpr fun m _ => ?_, ?_⟩
  · exact m.forall_mem_notices (fun _ _ => rfl) fun _ _ => rfl
  · exact List.forall_mem_map.mpr fun _ _ => rfl

/-- The events of resolving a declared root: those of making its graph, then a warning for each
endpoint that is recorded under a signature that has one, then a last one that tells how much there
is. -/
theorem events_resolve_of_graph? {c : Catalog} {root : String} {i : Interface} {g : Logged Graph}
    (hi : c.find? root = some i) (hg : c.graph? root = some g) :
    (c.resolve root).events =
      g.events ++
        (filterByPast List.contains [] (c.resolve root).value.signatures).map
          (.recordedAgain root) ++
        [.resolved root g.value.nodes.length (c.resolve root).value.endpoints.length
          (c.resolve root).value.failures.length] := by
  obtain ⟨g', hg', hreport⟩ := exists_report_eq hi
  cases Option.some.inj (hg.symm.trans hg')
  have hsignatures : (c.resolve root).value.signatures =
      ((c.findings i).filterMap Finding.endpoint?).map Endpoint.signature := by
    rw [Report.signatures, value_resolve hi, Report.endpoints_foldlM_record]
    rfl
  have hrecorded : (g.value.report root).events =
      (filterByPast List.contains [] (c.resolve root).value.signatures).map
        (.recordedAgain root) := by
    rw [hreport, Report.events_foldlM_record, hsignatures]
    rfl
  rw [← hrecorded, resolve, hg, List.append_assoc]
  rfl

/-- A resolution warns about each endpoint that is recorded under a signature that has one, in the
order in which they are recorded. -/
theorem filter_events_resolve (c : Catalog) (root : String) :
    (c.resolve root).events.filter Event.isRecordedAgain =
      (filterByPast List.contains [] (c.resolve root).value.signatures).map
        (.recordedAgain root) := by
  cases hi : c.find? root with
  | none =>
      rw [resolve_of_undeclared hi]
      rfl
  | some i =>
      obtain ⟨g, met, hg, -, -, hsearches, hend⟩ := exists_search hi
      have hnone : g.events.filter Event.isRecordedAgain = [] := by
        rw [hsearches.events_eq (.start hi) hend, List.filter_eq_nil_iff]
        exact List.forall_mem_flatMap.mpr fun i _ e he => by
          simp [isRecordedAgain_of_mem_notices e he]
      rw [events_resolve_of_graph? hi hg, List.filter_append, List.filter_append, hnone,
        List.filter_eq_self.mpr (List.forall_mem_map.mpr fun _ _ => rfl)]
      exact List.append_nil _

end Catalog

end ClientTraits
