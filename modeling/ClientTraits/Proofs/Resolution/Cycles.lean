import ClientTraits.Proofs.Resolution.Walk

/-!
# Cycles

A walk keeps no record of where it has been, apart from its own path. Whether this finds all cycles
is answered on lineages. A lineage *comes back* through a parent of its last interface if the parent
is on it already, and the graph errors of a report are exactly the parents through which simple
lineages come back (`graphErrors_resolve`).

## Proof shape

* `graphError_mem_findingsFrom` reads the errors of the walk off its lineages, by the recursion of
  both.
* `exists_comesBack` cuts a lineage that is not simple before its first repetition: there a simple
  one comes back.
* `exists_comesBack_iff` connects this with the relation `Catalog.Extends`. Around a cycle there is
  a lineage that meets an interface twice, and a lineage that comes back has a cycle at its end.
-/

namespace ClientTraits

namespace Catalog

variable {c : Catalog}

/-! ### Lineages that come back -/

/-- The last interface of the lineage lists a declared parent that is on the lineage behind its
first interface, or among `seen`. -/
def ComesBack (c : Catalog) (seen : List String) (l : Lineage) (parent : String) : Prop :=
  parent ∈ l.last.parents ∧ (c.find? parent).isSome ∧ (parent ∈ l.above ∨ parent ∈ seen)

/-- The first interface may as well count as seen. -/
theorem comesBack_via {seen : List String} {i : Interface} {entry : Nat} {rest : Lineage}
    {parent : String} :
    c.ComesBack seen (.via i entry rest) parent ↔
      c.ComesBack (rest.first.name :: seen) rest parent := by
  simp only [ComesBack, Lineage.last, Lineage.above, rest.names_eq_cons, List.mem_cons]
  tauto

/-- From an interface itself there is only one way back: a parent that was seen. -/
theorem comesBack_self {seen : List String} {i : Interface} {parent : String} :
    c.ComesBack seen (.self i) parent ↔
      ∃ j, parent ∈ i.parents ∧ c.find? parent = some j ∧ j.name ∈ seen := by
  simp only [ComesBack, Lineage.last, Lineage.above, List.not_mem_nil, false_or]
  constructor
  · intro hback
    obtain ⟨hparent, hsome, hseen⟩ := hback
    obtain ⟨j, hj⟩ := Option.isSome_iff_exists.mp hsome
    exact ⟨j, hparent, hj, by rwa [name_of_find? hj]⟩
  · intro hback
    obtain ⟨j, hparent, hj, hseen⟩ := hback
    exact ⟨hparent, by rw [hj]; rfl, by rwa [← name_of_find? hj]⟩

/-! ### The errors of a walk -/

theorem graphError_mem_findingsThrough {seen : List String} {settings : Fragment} {child : String}
    {parent : String} {e : GraphError} :
    .graphError e ∈ c.findingsThrough seen settings child parent ↔
      ∃ j, c.find? parent = some j ∧
        (j.name ∈ seen ∧ e = .cyclic child j.name ∨
          j.name ∉ seen ∧ .graphError e ∈ c.findingsFrom (j.name :: seen) settings j) := by
  rw [findingsThrough]
  cases hj : c.find? parent with
  | none => simp
  | some j =>
      by_cases hseen : j.name ∈ seen
      · simp [hseen]
      · simp [hseen]

theorem not_graphError_mem_findings {i : Interface} {settings : Fragment} {e : GraphError} :
    .graphError e ∉ i.findings settings := by
  intro h
  have hmem : e ∈ (i.findings settings).filterMap Finding.graphError? :=
    List.mem_filterMap.mpr ⟨_, h, rfl⟩
  rw [i.filterMap_graphError?_findings settings] at hmem
  exact List.not_mem_nil hmem

/-- A walk finds an error for each simple lineage and each parent through which it comes back. -/
theorem graphError_mem_findingsFrom {seen : List String} {settings : Fragment} {i : Interface}
    {e : GraphError} :
    .graphError e ∈ c.findingsFrom seen settings i ↔
      ∃ l ∈ c.lineagesFrom seen i, ∃ parent, c.ComesBack seen l parent ∧
        e = .cyclic l.last.name parent := by
  induction seen, i using c.unseen_induction generalizing settings with
  | step seen i ih =>
      rw [findingsFrom_eq, List.mem_append, List.mem_flatMap,
        or_iff_right not_graphError_mem_findings]
      constructor
      · intro he
        obtain ⟨parent, hparent, he⟩ := he
        obtain ⟨j, hj, ⟨hseen, rfl⟩ | ⟨hseen, he⟩⟩ := graphError_mem_findingsThrough.mp he
        · -- The error is at `i` itself.
          refine ⟨.self i, mem_lineagesFrom_iff_step.mpr (Or.inl rfl), parent,
            comesBack_self.mpr ⟨j, hparent, hj, hseen⟩, ?_⟩
          rw [name_of_find? hj]
          rfl
        · -- The error is further up, at the end of a lineage through `parent`.
          obtain ⟨rest, hrest, parent', hback, rfl⟩ := (ih parent j hj hseen).mp he
          obtain ⟨entry, hstep⟩ := exists_step_of_extends ⟨parent, hparent, hj⟩
          obtain rfl := first_of_mem_lineagesFrom hrest
          exact ⟨.via i entry rest,
            mem_lineagesFrom_iff_step.mpr (Or.inr ⟨entry, _, rest, hstep, hseen, hrest, rfl⟩),
            parent', comesBack_via.mpr hback, rfl⟩
      · intro hl
        obtain ⟨l, hl, parent, hback, rfl⟩ := hl
        rcases mem_lineagesFrom_iff_step.mp hl with rfl | ⟨entry, j, rest, hstep, hseen, hrest, rfl⟩
        · obtain ⟨j, hparent, hj, hseen⟩ := comesBack_self.mp hback
          refine ⟨parent, hparent, graphError_mem_findingsThrough.mpr ⟨j, hj, Or.inl ⟨hseen, ?_⟩⟩⟩
          rw [name_of_find? hj]
          rfl
        · obtain ⟨name, hname, hj⟩ := extends_of_step hstep
          obtain rfl := first_of_mem_lineagesFrom hrest
          exact ⟨name, hname, graphError_mem_findingsThrough.mpr ⟨_, hj, Or.inr ⟨hseen,
            (ih name _ hj hseen).mpr ⟨rest, hrest, parent, comesBack_via.mp hback, rfl⟩⟩⟩⟩

/-- The graph errors of a report are those of its walk, once each. -/
theorem value_graphErrors_resolve {root : String} {i : Interface} (h : c.find? root = some i) :
    (c.resolve root).value.graphErrors =
      ((c.findings i).filterMap Finding.graphError?).foldl appendNew [] := by
  rw [value_resolve h, Report.graphErrors_foldlM_record]
  rfl

theorem mem_graphErrors_resolve {root : String} {i : Interface} (h : c.find? root = some i)
    {e : GraphError} :
    e ∈ (c.resolve root).value.graphErrors ↔
      ∃ l ∈ c.lineages i, ∃ parent, c.ComesBack [i.name] l parent ∧
        e = .cyclic l.last.name parent := by
  rw [value_graphErrors_resolve h, mem_foldl_appendNew, or_iff_right List.not_mem_nil, lineages,
    ← graphError_mem_findingsFrom, List.mem_filterMap]
  constructor
  · intro he
    obtain ⟨f, hf, he⟩ := he
    cases f with
    | endpoint e' => cases he
    | failure f' => cases he
    | graphError e' =>
        cases he
        exact hf
  · intro he
    exact ⟨_, he, rfl⟩

/-! ### Repetitions -/

/-- **The first repetition.** A lineage that is not new behind `seen` has a part that is, and that
comes back. -/
theorem exists_comesBack {seen : List String} {l : Lineage} (hin : l.IsIn c)
    (hold : ¬ (l.above.Nodup ∧ ∀ name ∈ l.above, name ∉ seen)) :
    ∃ l' ∈ c.lineagesFrom seen l.first, ∃ parent, c.ComesBack seen l' parent := by
  induction l generalizing seen with
  | self i => exact absurd ⟨List.nodup_nil, fun _ h => absurd h List.not_mem_nil⟩ hold
  | via i entry rest ih =>
      obtain ⟨hstep, hrest⟩ := hin
      by_cases hseen : rest.first.name ∈ seen
      · -- This very step is the first repetition.
        obtain ⟨parent, hparent, hj⟩ := extends_of_step hstep
        exact ⟨.self i, mem_lineagesFrom_iff_step.mpr (Or.inl rfl), parent,
          comesBack_self.mpr ⟨rest.first, hparent, hj, hseen⟩⟩
      · have hold' : ¬ (rest.above.Nodup ∧ ∀ name ∈ rest.above, name ∉ rest.first.name :: seen) :=
          fun hnew => hold ((rest.names_fresh_iff seen).mpr ⟨hseen, hnew⟩)
        obtain ⟨l', hl', parent, hback⟩ := ih hrest hold'
        refine ⟨.via i entry l', mem_lineagesFrom_iff_step.mpr
          (Or.inr ⟨entry, rest.first, l', hstep, hseen, hl', rfl⟩), parent, comesBack_via.mpr ?_⟩
        rw [first_of_mem_lineagesFrom hl']
        exact hback

/-- A lineage can be extended downwards to whatever reaches its first interface. -/
theorem exists_lineage_of_reaches_first {i : Interface} {l : Lineage} (hin : l.IsIn c)
    (h : c.Reaches i l.first) :
    ∃ l' : Lineage, l'.first = i ∧ l'.IsIn c ∧ l.names <:+ l'.names := by
  induction h using Relation.ReflTransGen.head_induction_on with
  | refl => exact ⟨l, rfl, hin, List.suffix_refl _⟩
  | @head i k hik _ ih =>
      obtain ⟨l', rfl, hin', hnames⟩ := ih
      obtain ⟨entry, hstep⟩ := exists_step_of_extends hik
      exact ⟨.via i entry l', rfl, ⟨hstep, hin'⟩, hnames.trans (List.suffix_cons _ _)⟩

/-- A cycle gives a lineage that is not simple. -/
theorem exists_lineage_not_nodup {i j : Interface} (hreach : c.Reaches i j)
    (hcycle : Relation.TransGen c.Extends j j) :
    ∃ l : Lineage, l.first = i ∧ l.IsIn c ∧ ¬ l.names.Nodup := by
  obtain ⟨k, hjk, hkj⟩ := Relation.TransGen.head'_iff.mp hcycle
  -- Once around the cycle, so that `j` is met in the beginning and in the end.
  obtain ⟨round, rfl, hround, hnames⟩ := exists_lineage_of_reaches_first (l := .self j) trivial hkj
  obtain ⟨entry, hstep⟩ := exists_step_of_extends hjk
  have hagain : j.name ∈ round.names := hnames.subset (List.mem_singleton_self _)
  -- And from `i` to where the cycle begins.
  obtain ⟨l, hfirst, hin, hsuffix⟩ :=
    exists_lineage_of_reaches_first (l := .via j entry round) ⟨hstep, hround⟩ hreach
  refine ⟨l, hfirst, hin, fun hnodup => ?_⟩
  exact (List.nodup_cons.mp (hnodup.sublist hsuffix.sublist)).1 hagain

/-- A simple lineage that comes back has a cycle at its end. -/
theorem exists_cycle_of_comesBack {i : Interface} (hi : c.find? i.name = some i) {l : Lineage}
    (hl : l ∈ c.lineages i) {parent : String} (hback : c.ComesBack [i.name] l parent) :
    ∃ j, c.Reaches i j ∧ Relation.TransGen c.Extends j j := by
  obtain ⟨rfl, hin, -⟩ := mem_lineages.mp hl
  obtain ⟨hparent, -, hmem⟩ := hback
  -- Between the two places of `parent`, the lineage and its last step are a cycle.
  obtain ⟨rest, hrest, hfind, hlast, -, hreach⟩ :=
    exists_lineage_suffix hin hi (l.mem_names_iff.mpr hmem)
  have hclose : c.Extends rest.last rest.first := ⟨parent, by rwa [hlast], hfind⟩
  exact ⟨rest.first, hreach,
    Relation.TransGen.tail'_iff.mpr ⟨rest.last, reaches_last hrest, hclose⟩⟩

/-- Some simple lineage comes back if and only if there is a cycle to be reached. -/
theorem exists_comesBack_iff {i : Interface} (hi : c.find? i.name = some i) :
    (∃ l ∈ c.lineages i, ∃ parent, c.ComesBack [i.name] l parent) ↔
      ∃ j, c.Reaches i j ∧ Relation.TransGen c.Extends j j := by
  constructor
  · intro hback
    obtain ⟨l, hl, parent, hback⟩ := hback
    exact exists_cycle_of_comesBack hi hl hback
  · intro hcycle
    obtain ⟨j, hreach, hcycle⟩ := hcycle
    obtain ⟨l, rfl, hin, hrepeat⟩ := exists_lineage_not_nodup hreach hcycle
    rw [l.names_nodup_iff] at hrepeat
    exact exists_comesBack hin hrepeat

/-- For a declared root, coming back is listing a parent that the lineage meets. -/
theorem comesBack_iff_mem_names {i : Interface} (hi : c.find? i.name = some i) {l : Lineage}
    (hl : l ∈ c.lineages i) {parent : String} :
    c.ComesBack [i.name] l parent ↔ parent ∈ l.last.parents ∧ parent ∈ l.names := by
  obtain ⟨rfl, hin, -⟩ := mem_lineages.mp hl
  rw [ComesBack, ← l.mem_names_iff]
  refine and_congr_right fun _ => and_iff_right_of_imp fun hmem => ?_
  obtain ⟨rest, -, hfind, -⟩ := exists_lineage_suffix hin hi hmem
  rw [hfind]
  rfl

/-! ### Graph errors -/

/-- **Graph errors are cycles.** The report of a declared root has, once each, the errors of the
simple lineages whose last interface lists one that the lineage meets. There is one at all if and
only if the root reaches a cycle. -/
theorem graphErrors_resolve {root : String} {i : Interface} (h : c.find? root = some i) :
    (c.resolve root).value.graphErrors.Nodup ∧
      (∀ e, e ∈ (c.resolve root).value.graphErrors ↔
        ∃ l : Lineage, l.first = i ∧ l.IsIn c ∧ l.names.Nodup ∧
          ∃ parent ∈ l.last.parents, parent ∈ l.names ∧ e = .cyclic l.last.name parent) ∧
      ((c.resolve root).value.graphErrors ≠ [] ↔
        ∃ j, c.Reaches i j ∧ Relation.TransGen c.Extends j j) := by
  have hi : c.find? i.name = some i := by rw [name_of_find? h, h]
  refine ⟨?_, ?_, ?_⟩
  · rw [value_graphErrors_resolve h]
    exact foldl_appendNew_nodup List.nodup_nil
  · intro e
    rw [mem_graphErrors_resolve h]
    constructor
    · intro he
      obtain ⟨l, hl, parent, hback, he⟩ := he
      obtain ⟨hparent, hname⟩ := (comesBack_iff_mem_names hi hl).mp hback
      obtain ⟨hfirst, hin, hnodup⟩ := mem_lineages.mp hl
      exact ⟨l, hfirst, hin, hnodup, parent, hparent, hname, he⟩
    · intro he
      obtain ⟨l, hfirst, hin, hnodup, parent, hparent, hname, he⟩ := he
      have hl : l ∈ c.lineages i := mem_lineages.mpr ⟨hfirst, hin, hnodup⟩
      exact ⟨l, hl, parent, (comesBack_iff_mem_names hi hl).mpr ⟨hparent, hname⟩, he⟩
  · rw [← exists_comesBack_iff hi]
    constructor
    · intro hne
      obtain ⟨e, he⟩ := List.exists_mem_of_ne_nil _ hne
      obtain ⟨l, hl, parent, hback, -⟩ := (mem_graphErrors_resolve h).mp he
      exact ⟨l, hl, parent, hback⟩
    · intro hback
      obtain ⟨l, hl, parent, hback⟩ := hback
      exact List.ne_nil_of_mem ((mem_graphErrors_resolve h).mpr ⟨l, hl, parent, hback, rfl⟩)

/-- The cycles behind the root are reported, that of one interface among them. -/
theorem graphErrors_resolve_tangledCatalog :
    tangledCatalog.find? "Api" = some tangledRoot ∧
      (tangledCatalog.resolve "Api").value.graphErrors.Nodup ∧
      .cyclic "Base" "Base" ∈ (tangledCatalog.resolve "Api").value.graphErrors ∧
      ∃ j, tangledCatalog.Reaches tangledRoot j ∧
        Relation.TransGen tangledCatalog.Extends j j := by
  have hroot : tangledCatalog.find? "Api" = some tangledRoot := by decide
  obtain ⟨hnodup, herrors, hcycle⟩ := graphErrors_resolve hroot
  have hmem : .cyclic "Base" "Base" ∈ (tangledCatalog.resolve "Api").value.graphErrors := by
    rw [herrors]
    exact ⟨.via tangledRoot 0 (.via (layer "Left" ["Base"] true) 0
      (.self (layer "Base" ["Base", "Left"] false))), rfl, ⟨by decide, by decide, trivial⟩,
      by decide, "Base", by decide, by decide, rfl⟩
  exact ⟨hroot, hnodup, hmem, hcycle.mp (List.ne_nil_of_mem hmem)⟩

example : (tangledCatalog.resolve "Api").value.graphErrors =
    [.cyclic "Base" "Base", .cyclic "Base" "Left", .cyclic "Left" "Base"] := by
  cbv

end Catalog

end ClientTraits
