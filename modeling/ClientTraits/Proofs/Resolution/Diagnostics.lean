import ClientTraits.Proofs.Resolution.Discovery
import ClientTraits.Proofs.Resolution.Report
import ClientTraits.Proofs.Resolution.Repetition

/-!
# The events of a resolution

Everything that is told on the way to a report, in its order (`Catalog.events_resolve`). First come
the notices of the interfaces that the root reaches. They are told when the graph is made, hence in
the order of discovery and once for each interface, no matter how many paths lead to it and whether
it extends itself. The walk over the graph only warns about what it records again, and in the end
there is one event with the numbers of what was found.
-/

namespace ClientTraits

/-- An event is of a level. -/
def Event.isOf (level : Level) (e : Event) : Bool :=
  e.entry.level = level

namespace Catalog

theorem filter_notices_warning (c : Catalog) (i : Interface) :
    (c.notices i).filter (Event.isOf .warning) = i.methods.flatMap Method.notices := by
  have hmethods : ∀ e ∈ i.methods.flatMap Method.notices, e.isOf .warning = true :=
    List.forall_mem_flatMap.mpr fun m _ => m.forall_mem_notices (fun _ _ => rfl) fun _ _ => rfl
  have hparents : ∀ e ∈ c.undeclaredNotices i, ¬ e.isOf .warning = true :=
    List.forall_mem_map.mpr fun _ _ => Bool.false_ne_true
  rw [notices, List.filter_append, List.filter_eq_self.mpr hmethods,
    List.filter_eq_nil_iff.mpr hparents, List.append_nil]

theorem filter_notices_debug (c : Catalog) (i : Interface) :
    (c.notices i).filter (Event.isOf .debug) = c.undeclaredNotices i := by
  have hmethods : ∀ e ∈ i.methods.flatMap Method.notices, ¬ e.isOf .debug = true :=
    List.forall_mem_flatMap.mpr fun m _ =>
      m.forall_mem_notices (fun _ _ => Bool.false_ne_true) fun _ _ => Bool.false_ne_true
  have hparents : ∀ e ∈ c.undeclaredNotices i, e.isOf .debug = true :=
    List.forall_mem_map.mpr fun _ _ => rfl
  rw [notices, List.filter_append, List.filter_eq_nil_iff.mpr hmethods,
    List.filter_eq_self.mpr hparents, List.nil_append]

/-- **The events of a resolution.** There are none if the root is not declared. Else there are, for
each interface that the root reaches and in the order of discovery, the warnings about its methods
and a note for each parent that is not declared; then a warning for each endpoint that is recorded
under a signature that has one; then a note with the number of the interfaces, of the endpoints and
of the failures, which are all different. -/
theorem events_resolve (c : Catalog) (root : String) :
    match c.find? root with
    | none => (c.resolve root).events = []
    | some i => ∃ met, c.IsDiscovery i met ∧ (met.map Interface.name).Nodup ∧
        (c.resolve root).value.failures.Nodup ∧
        let again := (filterByPast List.contains [] (c.resolve root).value.signatures).map
          (Event.recordedAgain root)
        let last := Event.resolved root met.length (c.resolve root).value.endpoints.length
          (c.resolve root).value.failures.length
        (c.resolve root).events = met.flatMap c.notices ++ again ++ [last] ∧
          (c.resolve root).events.filter (Event.isOf .warning) =
            (met.flatMap fun j => j.methods.flatMap Method.notices) ++ again ∧
          (c.resolve root).events.filter (Event.isOf .debug) =
            met.flatMap c.undeclaredNotices ++ [last] := by
  cases hroot : c.find? root with
  | none =>
      dsimp only
      rw [resolve_of_undeclared hroot]
      rfl
  | some i =>
      dsimp only
      obtain ⟨g, met, hg, -, hrep, hsearches, hend⟩ := exists_search hroot
      have hself : c.find? i.name = some i := by rw [name_of_find? hroot, hroot]
      have hnotices : g.events = met.flatMap c.notices := hsearches.events_eq (.start hroot) hend
      have hevents := events_resolve_of_graph? hroot hg
      rw [hnotices, hrep.length_nodes] at hevents
      refine ⟨met, hsearches.isDiscovery hself hend, hrep.inventory.distinct, ?_, hevents, ?_, ?_⟩
      · rw [value_failures_resolve hroot]
        exact foldl_appendNew_nodup List.nodup_nil
      · rw [hevents, List.filter_append, List.filter_append, List.filter_flatMap,
          List.filter_eq_self.mpr (List.forall_mem_map.mpr fun _ _ => rfl)]
        simp only [filter_notices_warning]
        exact List.append_nil _
      · rw [hevents, List.filter_append, List.filter_append, List.filter_flatMap,
          List.filter_eq_nil_iff.mpr (List.forall_mem_map.mpr fun _ _ => Bool.false_ne_true)]
        simp only [filter_notices_debug, List.append_nil]
        rfl

/-- Two interfaces extend the one that fails, which extends itself too. -/
example : (tangledCatalog.resolve "Api").events =
    [.undeclaredParent "Api" "Missing", .recordedAgain "Api" ⟨"Left", "status", []⟩,
      .recordedAgain "Api" ⟨"Left", "status", []⟩, .resolved "Api" 4 5 1] := by
  decide +kernel

end Catalog

end ClientTraits
