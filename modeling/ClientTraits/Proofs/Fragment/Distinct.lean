import ClientTraits.Fragment.Distinct

/-!
# Laws of keeping the first of each name

`distinctBy` is used on lists that were put together from other lists, some of which went through
`distinctBy` themselves. The laws here say when that makes no difference:

* the names seen so far count only as a set (`keepNew_congr`);
* a list is worked off from left to right (`keepNew_append`);
* an inner `distinctBy` is absorbed on either side (`distinctBy_distinctBy_append`,
  `distinctBy_append_distinctBy`), so that lists with the same distinct items may replace each
  other under any outer one (`distinctBy_append_congr`);
* items behind a list that has all their names do not count (`distinctBy_append_of_forall_mem`);
* what is kept are the items at the positions where their names stand first
  (`keepNew_eq_map_filter`);
* a list stays as it is if and only if its names differ (`distinctBy_eq_self_iff`).
-/

namespace ClientTraits

variable {α : Type} {key : α → String}

/-! ### The names seen so far -/

/-- Only the set of seen names matters. -/
theorem keepNew_congr {seen seen' : List String} (h : ∀ s, s ∈ seen ↔ s ∈ seen')
    (xs : List α) : keepNew key seen xs = keepNew key seen' xs := by
  induction xs generalizing seen seen' with
  | nil => rfl
  | cons x xs ih =>
      have hcons : ∀ s, s ∈ key x :: seen ↔ s ∈ key x :: seen' := by
        intro s
        rw [List.mem_cons, List.mem_cons, h s]
      by_cases hx : key x ∈ seen
      · rw [keepNew, if_pos hx, keepNew, if_pos ((h _).mp hx)]
        exact ih h
      · rw [keepNew, if_neg hx, keepNew, if_neg (fun hx' => hx ((h _).mpr hx')), ih hcons]

/-- The right part of a list is worked off with the names of the left part seen. -/
theorem keepNew_append (seen : List String) (xs ys : List α) :
    keepNew key seen (xs ++ ys) =
      keepNew key seen xs ++ keepNew key (xs.map key ++ seen) ys := by
  induction xs generalizing seen with
  | nil => rfl
  | cons x xs ih =>
      rw [List.cons_append, keepNew, keepNew, List.map_cons, List.cons_append]
      by_cases hx : key x ∈ seen
      · -- The name of `x` counts as seen twice on the one side.
        rw [if_pos hx, if_pos hx, ih]
        congr 1
        apply keepNew_congr
        intro s
        simp only [List.mem_append, List.mem_cons]
        constructor
        · exact Or.inr
        · intro h
          rcases h with rfl | h
          · exact Or.inr hx
          · exact h
      · -- The name of `x` is seen at another place.
        rw [if_neg hx, if_neg hx, ih, List.cons_append]
        congr 2
        apply keepNew_congr
        intro s
        simp only [List.mem_append, List.mem_cons]
        exact or_left_comm

/-- Nothing is kept of a list whose names were all seen. -/
theorem keepNew_eq_nil {seen : List String} {xs : List α} (h : ∀ x ∈ xs, key x ∈ seen) :
    keepNew key seen xs = [] := by
  induction xs with
  | nil => rfl
  | cons x xs ih =>
      rw [keepNew, if_pos (h x List.mem_cons_self)]
      exact ih fun y hy => h y (List.mem_cons_of_mem x hy)

/-- What is kept has the names of the list, less those that were seen. -/
theorem mem_map_keepNew {seen : List String} {xs : List α} {s : String} :
    s ∈ (keepNew key seen xs).map key ↔ s ∈ xs.map key ∧ s ∉ seen := by
  induction xs generalizing seen with
  | nil => simp [keepNew]
  | cons x xs ih =>
      by_cases hx : key x ∈ seen
      · rw [keepNew, if_pos hx, ih, List.map_cons, List.mem_cons]
        constructor
        · intro h
          obtain ⟨h, hs⟩ := h
          exact ⟨Or.inr h, hs⟩
        · intro h
          obtain ⟨rfl | h, hs⟩ := h
          · exact absurd hx hs
          · exact ⟨h, hs⟩
      · rw [keepNew, if_neg hx, List.map_cons, List.mem_cons, ih, List.map_cons, List.mem_cons,
          List.mem_cons, not_or]
        constructor
        · intro h
          rcases h with rfl | ⟨h, -, hs⟩
          · exact ⟨Or.inl rfl, hx⟩
          · exact ⟨Or.inr h, hs⟩
        · intro h
          obtain ⟨h, hs⟩ := h
          by_cases hsx : s = key x
          · exact Or.inl hsx
          · exact Or.inr ⟨h.resolve_left hsx, hsx, hs⟩

/-- An inner pass that has seen less makes no difference. -/
theorem keepNew_keepNew {seen seen' : List String} (h : ∀ s ∈ seen', s ∈ seen) (xs : List α) :
    keepNew key seen (keepNew key seen' xs) = keepNew key seen xs := by
  induction xs generalizing seen seen' with
  | nil => rfl
  | cons x xs ih =>
      by_cases hx' : key x ∈ seen'
      · rw [keepNew, if_pos hx', ih h, keepNew, if_pos (h _ hx')]
      · rw [keepNew, if_neg hx', keepNew, keepNew]
        by_cases hx : key x ∈ seen
        · rw [if_pos hx, if_pos hx]
          refine ih fun s hs => ?_
          rcases List.mem_cons.mp hs with rfl | hs
          · exact hx
          · exact h s hs
        · rw [if_neg hx, if_neg hx]
          congr 1
          exact ih fun s hs => by
            rcases List.mem_cons.mp hs with rfl | hs
            · exact List.mem_cons_self
            · exact List.mem_cons_of_mem _ (h s hs)

/-- What is kept has different names, none of which was seen. -/
theorem nodup_map_keepNew {seen : List String} {xs : List α} :
    ((keepNew key seen xs).map key).Nodup := by
  induction xs generalizing seen with
  | nil => exact List.nodup_nil
  | cons x xs ih =>
      by_cases hx : key x ∈ seen
      · rw [keepNew, if_pos hx]
        exact ih
      · rw [keepNew, if_neg hx, List.map_cons, List.nodup_cons]
        exact ⟨fun h => (mem_map_keepNew.mp h).2 List.mem_cons_self, ih⟩

/-- All items are kept if their names differ and none of them was seen. -/
theorem keepNew_eq_self {seen : List String} {xs : List α} (hnodup : (xs.map key).Nodup)
    (hnew : ∀ x ∈ xs, key x ∉ seen) : keepNew key seen xs = xs := by
  induction xs generalizing seen with
  | nil => rfl
  | cons x xs ih =>
      rw [List.map_cons, List.nodup_cons] at hnodup
      rw [keepNew, if_neg (hnew x List.mem_cons_self), ih hnodup.2]
      intro y hy hseen
      rcases List.mem_cons.mp hseen with hname | hseen
      · exact hnodup.1 (hname ▸ List.mem_map_of_mem hy)
      · exact hnew y (List.mem_cons_of_mem x hy) hseen

/-- What is kept stands in the list. -/
theorem keepNew_sublist (seen : List String) (xs : List α) : (keepNew key seen xs).Sublist xs := by
  induction xs generalizing seen with
  | nil => exact List.Sublist.refl []
  | cons x xs ih =>
      by_cases hx : key x ∈ seen
      · rw [keepNew, if_pos hx]
        exact (ih seen).cons x
      · rw [keepNew, if_neg hx]
        exact (ih (key x :: seen)).cons_cons x

/-! ### Positions -/

/-- The item at this position has a name that was not seen and that no item before it has. -/
def IsNewAt (key : α → String) (seen : List String) (xs : List α) (i : Fin xs.length) : Prop :=
  key xs[i] ∉ seen ∧ ∀ j < i, key xs[j] ≠ key xs[i]

instance (seen : List String) (xs : List α) : DecidablePred (IsNewAt key seen xs) :=
  fun _ => inferInstanceAs (Decidable (_ ∧ _))

theorem isNewAt_zero_iff {seen : List String} {x : α} {xs : List α} :
    IsNewAt key seen (x :: xs) (0 : Fin (xs.length + 1)) ↔ key x ∉ seen :=
  and_iff_left fun j hj => absurd hj (Fin.not_lt_zero j)

/-- Behind the first item its name counts as seen. -/
theorem isNewAt_succ_iff {seen : List String} {x : α} {xs : List α} {i : Fin xs.length} :
    IsNewAt key seen (x :: xs) i.succ ↔ IsNewAt key (key x :: seen) xs i := by
  have hbefore : (∀ j < i.succ, key (x :: xs)[j] ≠ key xs[i]) ↔
      key x ≠ key xs[i] ∧ ∀ j < i, key xs[j] ≠ key xs[i] := by
    constructor
    · intro h
      exact ⟨h 0 i.succ_pos, fun j hj => h j.succ (Fin.succ_lt_succ_iff.mpr hj)⟩
    · intro h j hj
      cases j using Fin.cases with
      | zero => exact h.1
      | succ j => exact h.2 j (Fin.succ_lt_succ_iff.mp hj)
  show _ ∧ (∀ j < i.succ, key (x :: xs)[j] ≠ key xs[i]) ↔ _
  rw [hbefore, IsNewAt, List.mem_cons, not_or, ne_comm]
  exact and_left_comm.trans and_assoc.symm

/-- An item is kept if and only if its name was not seen and no item before it has the name. -/
theorem keepNew_eq_map_filter (seen : List String) (xs : List α) :
    keepNew key seen xs =
      ((List.finRange xs.length).filter fun i => IsNewAt key seen xs i).map fun i => xs[i] := by
  induction xs generalizing seen with
  | nil => rfl
  | cons x xs ih =>
      have hrest : ((((List.finRange xs.length).map Fin.succ).filter fun i =>
          IsNewAt key seen (x :: xs) i).map fun i => (x :: xs)[i]) =
          keepNew key (key x :: seen) xs := by
        rw [ih, List.filter_map, List.map_map]
        congr 1
        exact List.filter_congr fun i _ => decide_eq_decide.mpr isNewAt_succ_iff
      have hnames : key x ∈ seen → keepNew key (key x :: seen) xs = keepNew key seen xs :=
        fun hx => keepNew_congr (by simp [hx]) xs
      have hpositions : List.finRange (x :: xs).length =
          0 :: (List.finRange xs.length).map Fin.succ := List.finRange_succ
      rw [hpositions, List.filter_cons, keepNew]
      simp only [isNewAt_zero_iff, decide_eq_true_eq, ite_not]
      split
      · next hx => rw [hrest, hnames hx]
      · rw [List.map_cons, hrest]
        rfl

/-! ### Distinct items -/

/-- Distinct items are items of the list. -/
theorem mem_of_mem_distinctBy {xs : List α} {x : α} (h : x ∈ distinctBy key xs) : x ∈ xs :=
  (keepNew_sublist [] xs).subset h

/-- The names of the distinct items are those of the list. -/
theorem mem_map_distinctBy {xs : List α} {s : String} :
    s ∈ (distinctBy key xs).map key ↔ s ∈ xs.map key := by
  rw [distinctBy, mem_map_keepNew]
  exact and_iff_left List.not_mem_nil

/-- Distinct items have different names. -/
theorem nodup_map_distinctBy (xs : List α) : ((distinctBy key xs).map key).Nodup :=
  nodup_map_keepNew

/-- A list is its own list of distinct items if and only if its names differ. -/
theorem distinctBy_eq_self_iff {xs : List α} :
    distinctBy key xs = xs ↔ (xs.map key).Nodup := by
  constructor
  · intro h
    rw [← h]
    exact nodup_map_distinctBy xs
  · intro h
    exact keepNew_eq_self h fun _ _ => List.not_mem_nil

/-- The first item of a list is always kept. -/
theorem distinctBy_cons (x : α) (xs : List α) :
    distinctBy key (x :: xs) = x :: keepNew key [key x] xs := by
  rw [distinctBy, keepNew, if_neg List.not_mem_nil]

/-- An item in front makes no difference if and only if it stands there already. -/
theorem distinctBy_cons_eq_iff {x : α} {xs : List α} :
    distinctBy key (x :: xs) = distinctBy key xs ↔ xs.head? = some x := by
  cases xs with
  | nil => simp [distinctBy, keepNew]
  | cons y ys =>
      rw [List.head?_cons, Option.some.injEq]
      constructor
      · intro h
        rw [distinctBy_cons, distinctBy_cons] at h
        exact (List.cons.inj h).1.symm
      · intro h
        rw [h, distinctBy_cons, distinctBy_cons, keepNew, if_pos List.mem_cons_self]

/-- Distinct items are distinct already. -/
theorem distinctBy_distinctBy (xs : List α) :
    distinctBy key (distinctBy key xs) = distinctBy key xs :=
  keepNew_keepNew (fun _ h => h) xs

/-- The left part may be made distinct before. -/
theorem distinctBy_distinctBy_append (xs ys : List α) :
    distinctBy key (distinctBy key xs ++ ys) = distinctBy key (xs ++ ys) := by
  have hnames : ∀ s, s ∈ (distinctBy key xs).map key ++ [] ↔ s ∈ xs.map key ++ [] := by
    intro s
    rw [List.append_nil, List.append_nil, mem_map_distinctBy]
  rw [distinctBy, keepNew_append, keepNew_congr hnames, distinctBy, distinctBy, keepNew_append,
    keepNew_keepNew fun _ h => h]

/-- The right part may be made distinct before. -/
theorem distinctBy_append_distinctBy (xs ys : List α) :
    distinctBy key (xs ++ distinctBy key ys) = distinctBy key (xs ++ ys) := by
  rw [distinctBy, keepNew_append, distinctBy, distinctBy, keepNew_append,
    keepNew_keepNew fun _ h => absurd h List.not_mem_nil]

/-- Lists with the same distinct items may replace each other. -/
theorem distinctBy_append_congr {xs xs' ys ys' : List α}
    (hx : distinctBy key xs = distinctBy key xs') (hy : distinctBy key ys = distinctBy key ys') :
    distinctBy key (xs ++ ys) = distinctBy key (xs' ++ ys') := by
  rw [← distinctBy_distinctBy_append, ← distinctBy_append_distinctBy, hx, hy,
    distinctBy_append_distinctBy, distinctBy_distinctBy_append]

/-- Items whose names all stand before them do not count. -/
theorem distinctBy_append_of_forall_mem {xs ys : List α} (h : ∀ y ∈ ys, key y ∈ xs.map key) :
    distinctBy key (xs ++ ys) = distinctBy key xs := by
  rw [distinctBy, keepNew_append, keepNew_eq_nil (fun y hy => List.mem_append_left _ (h y hy)),
    List.append_nil]
  rfl

/-- An item whose name stands before it does not count. -/
theorem distinctBy_append_cons_of_mem {x : α} {xs ys : List α} (h : key x ∈ xs.map key) :
    distinctBy key (xs ++ x :: ys) = distinctBy key (xs ++ ys) := by
  have hfront : distinctBy key (xs ++ [x]) = distinctBy key xs :=
    distinctBy_append_of_forall_mem fun y hy => by rwa [List.mem_singleton.mp hy]
  rw [List.append_cons]
  exact distinctBy_append_congr hfront rfl

/-- **The first of each name.** An item of a list is kept if and only if no item before it has its
name, and what is kept stays in order. A second pass changes nothing, an inner pass on a part of the
list is absorbed, and so is one over items behind a head that stands in front of them already. -/
theorem distinctBy_keeps_first {α : Type} (key : α → String) :
    (∀ xs : List α, distinctBy key xs =
      ((List.finRange xs.length).filter fun i => ∀ j < i, key xs[j] ≠ key xs[i]).map
        fun i => xs[i]) ∧
    (∀ xs, distinctBy key (distinctBy key xs) = distinctBy key xs) ∧
    (∀ xs ys, distinctBy key (distinctBy key xs ++ ys) = distinctBy key (xs ++ ys) ∧
      distinctBy key (xs ++ distinctBy key ys) = distinctBy key (xs ++ ys)) ∧
    ∀ head xs ys, distinctBy key (head :: xs ++ distinctBy key (head :: ys)) =
      distinctBy key (head :: xs ++ ys) := by
  refine ⟨fun xs => ?_, distinctBy_distinctBy, fun xs ys =>
    ⟨distinctBy_distinctBy_append xs ys, distinctBy_append_distinctBy xs ys⟩, fun head xs ys => ?_⟩
  · rw [distinctBy, keepNew_eq_map_filter]
    congr 1
    refine List.filter_congr fun i _ => decide_eq_decide.mpr ?_
    exact and_iff_right List.not_mem_nil
  · rw [distinctBy_append_distinctBy]
    exact distinctBy_append_cons_of_mem (List.mem_map_of_mem List.mem_cons_self)

end ClientTraits
