import Mathlib.Data.List.Lex
import Mathlib.Data.List.Sort
import ClientTraits.Files.Path
import ClientTraits.Proofs.List
import ClientTraits.Proofs.Text.Split

/-!
# Components of paths and their order

Paths are compared by their components, in the order of the first difference
(`Component.listLe_iff`). What is sorted so, each once, goes strictly up (`pairwise_sortedUnique`),
has nothing but what was given, and has every component list that was given
(`exists_mem_sortedUnique`). Therefore it is determined by these lists, whatever their order was and
however often they came (`map_components_sortedUnique_eq`).

A path joined to another one has the components of both (`components_join`). What the components
leave out of a path are empty segments and single points; the other segments are its steps
(`Path.steps`).
-/

namespace ClientTraits

/-! ### The order -/

namespace Component

/-- The order of components. -/
def Before (a b : Component) : Prop :=
  a.before b = true

/-- Kinds come first, and names are in the order of texts. -/
theorem before_iff {a b : Component} :
    Before a b ↔ a.rank < b.rank ∨ ∃ s t, a = name s ∧ b = name t ∧ s < t := by
  rw [Before]
  fun_cases before a b with
  | case1 s t =>
      rw [decide_eq_true_iff]
      constructor
      · intro h
        exact .inr ⟨s, t, rfl, rfl, h⟩
      · intro h
        obtain h | ⟨_, _, hs, ht, h⟩ := h
        · exact absurd h (Nat.lt_irrefl _)
        · cases hs
          cases ht
          exact h
  | case2 a b hnames =>
      rw [decide_eq_true_iff]
      exact ⟨.inl, fun h => h.resolve_right fun ⟨s, t, hs, ht, _⟩ => hnames s t hs ht⟩

instance : Std.Asymm Before where
  asymm a b hab hba := by
    rw [before_iff] at hab hba
    grind [rank, String.lt_asymm]

instance : IsTrans Component Before where
  trans a b c hab hbc := by
    rw [before_iff] at hab hbc ⊢
    grind [rank, String.lt_trans]

instance : Std.Trichotomous Before where
  trichotomous a b hab hba := by
    rw [before_iff] at hab hba
    cases a <;> cases b <;> grind [rank, String.not_lt, String.le_antisymm]

/-- Equal lists, or the first one comes first at the first difference. -/
theorem listLe_iff {as bs : List Component} :
    listLe as bs = true ↔ as = bs ∨ List.Lex Before as bs := by
  induction as generalizing bs with
  | nil => cases bs <;> simp [listLe]
  | cons a as ih =>
      cases bs with
      | nil => simp [listLe]
      | cons b bs =>
          rw [listLe, Bool.or_eq_true, Bool.and_eq_true, beq_iff_eq, ih, List.cons_lex_cons_iff,
            List.cons.injEq]
          tauto

end Component

namespace Path

/-! ### Paths in order -/

theorem le_iff {p q : Path} :
    p.le q = true ↔ p.components = q.components ∨
      List.Lex Component.Before p.components q.components :=
  Component.listLe_iff

/-- What is in a folder comes before files whose names begin like the folder's, unlike in the order
of texts. -/
example : le ⟨"a/b.rs"⟩ ⟨"a-b.rs"⟩ = true ∧ le ⟨"a-b.rs"⟩ ⟨"a.rs"⟩ = true := by
  decide

theorem pairwise_mergeSort (paths : List Path) :
    (paths.mergeSort le).Pairwise fun p q => p.components = q.components ∨
      List.Lex Component.Before p.components q.components := by
  have hsorted : (paths.mergeSort le).Pairwise fun p q => p.le q = true := by
    refine List.pairwise_mergeSort (fun p q s hpq hqs => ?_) (fun p q => ?_) paths
    · rw [le_iff] at hpq hqs ⊢
      rcases hpq with hpq | hpq
      · rwa [hpq]
      rcases hqs with hqs | hqs
      · exact .inr (hqs ▸ hpq)
      · exact .inr (List.lex_trans (trans_of _) hpq hqs)
    · rw [Bool.or_eq_true, le_iff, le_iff]
      rcases trichotomous_of (List.Lex Component.Before) p.components q.components with h | h | h
      · exact .inl (.inr h)
      · exact .inl (.inl h)
      · exact .inr (.inr h)
  exact hsorted.imp le_iff.mp

/-- The paths go strictly up. -/
theorem pairwise_sortedUnique (paths : List Path) :
    (sortedUnique paths).Pairwise fun p q =>
      List.Lex Component.Before p.components q.components := by
  have : IsTrans (List Component) (List.Lex Component.Before) :=
    ⟨fun _ _ _ => List.lex_trans (trans_of _)⟩
  exact pairwise_eraseRepsBy (pairwise_mergeSort paths)

/-- No path is new. -/
theorem mem_of_mem_sortedUnique {paths : List Path} {p : Path} (h : p ∈ sortedUnique paths) :
    p ∈ paths :=
  List.mem_mergeSort.mp ((eraseRepsBy_sublist _).subset h)

/-- For each path there is one with the same components. -/
theorem exists_mem_sortedUnique {paths : List Path} {p : Path} (h : p ∈ paths) :
    ∃ q ∈ sortedUnique paths, q.components = p.components :=
  exists_mem_eraseRepsBy (List.mem_mergeSort.mpr h)

theorem mem_map_components_sortedUnique {paths : List Path} {cs : List Component} :
    cs ∈ (sortedUnique paths).map components ↔ cs ∈ paths.map components := by
  simp only [List.mem_map]
  constructor
  · intro h
    obtain ⟨p, hp, hcs⟩ := h
    exact ⟨p, mem_of_mem_sortedUnique hp, hcs⟩
  · intro h
    obtain ⟨p, hp, hcs⟩ := h
    obtain ⟨q, hq, hsame⟩ := exists_mem_sortedUnique hp
    exact ⟨q, hq, hsame.trans hcs⟩

/-- Only the component lists count, not how often they come or in which order. -/
theorem map_components_sortedUnique_eq {paths paths' : List Path}
    (h : ∀ cs, cs ∈ paths'.map components ↔ cs ∈ paths.map components) :
    (sortedUnique paths').map components = (sortedUnique paths).map components := by
  have hup := fun paths => List.pairwise_map.mpr (pairwise_sortedUnique paths)
  refine (hup paths').eq_of_mem_iff (hup paths) fun cs => ?_
  rw [mem_map_components_sortedUnique, mem_map_components_sortedUnique, h]

/-! ### Segments -/

theorem segments_ne_nil (p : Path) : p.segments ≠ [] := by
  simp [segments, Text.pieces, Text.pieceChars_ne_nil]

theorem segments_of_no_slash {name : String} (h : '/' ∉ name.toList) :
    (⟨name⟩ : Path).segments = [name] := by
  simp [segments, Text.pieces, Text.pieceChars_of_not_mem h]

theorem isAbsolute_of_no_slash {name : String} (h : '/' ∉ name.toList) :
    (⟨name⟩ : Path).isAbsolute = false := by
  rw [isAbsolute, beq_eq_false_iff_ne]
  intro hfirst
  exact h (List.mem_of_head? hfirst)

/-- The segments of the second path come behind those of the first one; an empty last segment of the
first one is left out. -/
theorem exists_segments_join {base p : Path} (hbase : base.text ≠ "")
    (hp : p.isAbsolute = false) :
    ∃ start, (base.segments = start ∨ base.segments = start ++ [""]) ∧ start ≠ [] ∧
      (base.join p).segments = start ++ p.segments := by
  rw [join, if_neg (by simp [hp])]
  by_cases hslash : base.text.toList.getLast? = some '/'
  · obtain ⟨start, hstart⟩ := List.getLast?_eq_some_iff.mp hslash
    rw [if_pos (by simp [hslash])]
    refine ⟨(Text.pieceChars '/' start).map String.ofList, .inr ?_, ?_, ?_⟩
    · rw [segments, Text.pieces, hstart, Text.pieceChars_append_cons]
      simp [Text.pieceChars]
    · simp [Text.pieceChars_ne_nil]
    · simp [segments, Text.pieces, hstart, Text.pieceChars_append_cons]
  · rw [if_neg (by simp [hslash, hbase])]
    refine ⟨base.segments, .inl rfl, base.segments_ne_nil, ?_⟩
    simp [segments, Text.pieces, Text.pieceChars_append_cons]

/-- The segments that are components. -/
def steps (p : Path) : List String :=
  p.segments.filter fun segment => (Component.ofSegment? segment).isSome

end Path

/-- The segment that a component is. -/
def Component.step? : Component → Option String
  | up => some ".."
  | name s => some s
  | root => none
  | here => none

theorem Component.ofSegment?_bind_step? (segment : String) :
    (ofSegment? segment).bind step? =
      if (ofSegment? segment).isSome = true then some segment else none := by
  by_cases hstay : (segment = "" || segment = ".") = true
  · simp [ofSegment?, hstay]
  · by_cases hup : segment = ".."
    · simp [ofSegment?, hup, step?]
    · simp [ofSegment?, hstay, hup, step?]

namespace Path

variable {base p : Path}

/-- The steps are told by the components. -/
theorem filterMap_components (p : Path) : p.components.filterMap Component.step? = p.steps := by
  have hstart : (if p.isAbsolute then [Component.root]
      else if p.segments.head? == some "." then [.here]
      else []).filterMap Component.step? = [] := by
    split
    · rfl
    · split <;> rfl
  rw [components, List.filterMap_append, hstart, List.nil_append, List.filterMap_filterMap, steps,
    ← List.filterMap_eq_filter]
  congr 1
  funext segment
  rw [Component.ofSegment?_bind_step?, Option.guard_apply]

theorem steps_join (hbase : base.text ≠ "") (hp : p.isAbsolute = false) :
    (base.join p).steps = base.steps ++ p.steps := by
  obtain ⟨start, hstart, -, hjoin⟩ := exists_segments_join hbase hp
  rcases hstart with hstart | hstart <;>
    simp [steps, hjoin, hstart, Component.ofSegment?]

theorem isAbsolute_join (hbase : base.text ≠ "") (hp : p.isAbsolute = false) :
    (base.join p).isAbsolute = base.isAbsolute := by
  have hne : base.text.toList ≠ [] := fun h => hbase (String.toList_eq_nil_iff.mp h)
  rw [join, if_neg (by simp [hp])]
  split <;> simp [isAbsolute, List.head?_append_of_ne_nil _ hne]

theorem text_join_ne (hbase : base.text ≠ "") (hp : p.isAbsolute = false) :
    (base.join p).text ≠ "" := by
  rw [join, if_neg (by simp [hp])]
  split <;> simp [hbase]

theorem filterMap_segments (p : Path) :
    p.segments.filterMap Component.ofSegment? = p.steps.filterMap Component.ofSegment? := by
  rw [steps, List.filterMap_filter]
  congr 1
  funext segment
  cases Component.ofSegment? segment <;> rfl

/-- A path joined to another one has the components of both. -/
theorem components_join (hbase : base.text ≠ "") (hp : p.isAbsolute = false) :
    (base.join p).components = base.components ++ p.steps.filterMap Component.ofSegment? := by
  obtain ⟨start, hstart, hne, hjoin⟩ := exists_segments_join hbase hp
  have hfirst : (base.join p).segments.head? = base.segments.head? := by
    rw [hjoin, List.head?_append_of_ne_nil start hne]
    rcases hstart with hstart | hstart
    · rw [hstart]
    · rw [hstart, List.head?_append_of_ne_nil start hne]
  rw [components, components, isAbsolute_join hbase hp, hfirst, filterMap_segments,
    filterMap_segments, steps_join hbase hp, List.filterMap_append, List.append_assoc]

/-- An absolute path is one whose components hold the root. -/
theorem isAbsolute_iff : p.isAbsolute = true ↔ Component.root ∈ p.components := by
  have hsegments : Component.root ∉ p.segments.filterMap Component.ofSegment? := by
    intro hroot
    obtain ⟨segment, -, hsegment⟩ := List.mem_filterMap.mp hroot
    rw [Component.ofSegment?] at hsegment
    split at hsegment
    · cases hsegment
    · split at hsegment <;> cases hsegment
  rw [components]
  by_cases habsolute : p.isAbsolute = true
  · simp [habsolute]
  · by_cases hpoint : p.segments.head? = some "." <;> simp [habsolute, hpoint, hsegments]

theorem isAbsolute_congr {q : Path} (h : p.components = q.components) :
    p.isAbsolute = q.isAbsolute := by
  rw [Bool.eq_iff_iff, isAbsolute_iff, isAbsolute_iff, h]

/-- The last component ends in a point and the extension, and that is not all of it. -/
theorem hasExtension_iff {extension : String} (hpoint : '.' ∉ extension.toList) :
    p.hasExtension extension = true ↔
      ∃ stem, stem ≠ "" ∧ p.components.getLast? = some (.name (stem ++ "." ++ extension)) := by
  constructor
  · intro h
    rw [hasExtension] at h
    split at h
    · next s hlast =>
        split at h
        · next ending stem hcut =>
            obtain ⟨hstem, hending⟩ := Bool.and_eq_true_iff.mp h
            have hs := List.reverse_eq_iff.mp (Text.splitChars_eq_some_iff.mp hcut).2
            refine ⟨String.ofList stem.reverse, by simpa using hstem, ?_⟩
            have heq : s = String.ofList stem.reverse ++ "." ++ extension :=
              String.toList_inj.mp (by simp [hs, beq_iff_eq.mp hending])
            exact heq ▸ hlast
        · cases h
    · cases h
  · intro h
    obtain ⟨stem, hne, hlast⟩ := h
    have hcut : Text.splitChars '.' (stem ++ "." ++ extension).toList.reverse =
        some (extension.toList.reverse, stem.toList.reverse) :=
      Text.splitChars_eq_some_iff.mpr ⟨by simpa using hpoint, by simp⟩
    rw [hasExtension, hlast]
    simp only [hcut]
    simp [hne]

theorem hasExtension_congr {q : Path} (h : p.components = q.components) {extension : String} :
    p.hasExtension extension = q.hasExtension extension := by
  rw [hasExtension, hasExtension, h]

end Path

end ClientTraits
