import Mathlib.Data.List.Basic
import Mathlib.Order.Defs.Unbundled

/-!
# Lists of pairs and lists in order

A pair is looked up by its key, whatever its place, if the keys are distinct. A list that goes up
goes strictly up when repetitions are left out.
-/

namespace ClientTraits

/-! ### Pairs -/

/-- With distinct keys, a pair is found wherever it stands. -/
theorem lookup_eq_some_iff_of_nodup {α β : Type} [DecidableEq α] {pairs : List (α × β)}
    (h : (pairs.map Prod.fst).Nodup) {a : α} {b : β} :
    pairs.lookup a = some b ↔ (a, b) ∈ pairs := by
  induction pairs with
  | nil => simp
  | cons pair rest ih =>
      obtain ⟨hpair, hrest⟩ := List.nodup_cons.mp h
      by_cases ha : a = pair.1
      · have hno : (a, b) ∉ rest := fun hmem => hpair (ha ▸ List.mem_map_of_mem hmem)
        rw [List.lookup_cons, beq_iff_eq.mpr ha, List.mem_cons, or_iff_left hno, Prod.ext_iff]
        simp [ha, eq_comm]
      · have hne : (a, b) ≠ pair := fun heq => ha (congrArg Prod.fst heq)
        rw [List.lookup_cons, beq_eq_false_iff_ne.mpr ha, List.mem_cons, or_iff_right hne]
        exact ih hrest

/-! ### Keys -/

/-- What is listed for the items is the same if their keys are, and if the keys tell what is listed
for an item. -/
theorem flatMap_eq_of_map_eq {α β γ : Type} {key : α → β} {f : α → List γ} {as bs : List α}
    (hkeys : as.map key = bs.map key) (h : ∀ a ∈ as, ∀ b ∈ bs, key a = key b → f a = f b) :
    as.flatMap f = bs.flatMap f := by
  induction as generalizing bs with
  | nil =>
      obtain rfl := List.map_eq_nil_iff.mp hkeys.symm
      rfl
  | cons a as ih =>
      cases bs with
      | nil => cases hkeys
      | cons b bs =>
          obtain ⟨hkey, hkeys⟩ := List.cons.inj hkeys
          rw [List.flatMap_cons, List.flatMap_cons, h a (by simp) b (by simp) hkey,
            ih hkeys fun a ha b hb => h a (by simp [ha]) b (by simp [hb])]

/-! ### Repetitions -/

section Repetitions

variable {α : Type} {r : α → α → Bool}

theorem eraseRepsBy_loop_eq (a : α) (items done : List α) :
    List.eraseRepsBy.loop r a items done = done.reverse ++ List.eraseRepsBy r (a :: items) := by
  rw [List.eraseRepsBy]
  induction items generalizing a done with
  | nil => simp [List.eraseRepsBy.loop]
  | cons b rest ih =>
      rw [List.eraseRepsBy.loop, List.eraseRepsBy.loop]
      split
      · exact ih a done
      · rw [ih b (a :: done), ih b [a]]
        simp

theorem eraseRepsBy_cons_cons (a b : α) (rest : List α) :
    List.eraseRepsBy r (a :: b :: rest) =
      if r a b = true then List.eraseRepsBy r (a :: rest)
      else a :: List.eraseRepsBy r (b :: rest) := by
  rw [List.eraseRepsBy, List.eraseRepsBy.loop]
  split
  · next h => rw [if_pos h, eraseRepsBy_loop_eq]; rfl
  · next h => rw [if_neg (by simp [h]), eraseRepsBy_loop_eq]; rfl

/-- Items are left out, nothing else. -/
theorem eraseRepsBy_sublist (items : List α) : (items.eraseRepsBy r).Sublist items := by
  cases items with
  | nil => exact .slnil
  | cons a rest =>
      induction rest generalizing a with
      | nil => simp [List.eraseRepsBy, List.eraseRepsBy.loop]
      | cons b rest ih =>
          rw [eraseRepsBy_cons_cons]
          split
          · exact (ih a).trans (.cons_cons a (List.sublist_cons_self b rest))
          · exact (ih b).cons_cons a

end Repetitions

section Keys

variable {α β : Type} [BEq β] [LawfulBEq β] {key : α → β}

/-- An item is left out after one with the same key. -/
theorem exists_mem_eraseRepsBy {items : List α} {a : α} (h : a ∈ items) :
    ∃ b ∈ items.eraseRepsBy fun a b => key a == key b, key b = key a := by
  cases items with
  | nil => cases h
  | cons first rest =>
      induction rest generalizing first a with
      | nil =>
          obtain rfl := List.mem_singleton.mp h
          exact ⟨a, by simp [List.eraseRepsBy, List.eraseRepsBy.loop], rfl⟩
      | cons second rest ih =>
          rw [eraseRepsBy_cons_cons]
          split
          · next heq =>
              rcases List.mem_cons.mp h with rfl | h
              · exact ih _ List.mem_cons_self
              rcases List.mem_cons.mp h with rfl | h
              · rw [← beq_iff_eq.mp heq]
                exact ih _ List.mem_cons_self
              · exact ih _ (List.mem_cons_of_mem _ h)
          · rcases List.mem_cons.mp h with rfl | h
            · exact ⟨a, List.mem_cons_self, rfl⟩
            · obtain ⟨b, hb, hkey⟩ := ih _ h
              exact ⟨b, List.mem_cons_of_mem _ hb, hkey⟩

/-- What goes up goes strictly up without repetitions. -/
theorem pairwise_eraseRepsBy {lt : β → β → Prop} [IsTrans β lt] {items : List α}
    (h : items.Pairwise fun a b => key a = key b ∨ lt (key a) (key b)) :
    (items.eraseRepsBy fun a b => key a == key b).Pairwise fun a b => lt (key a) (key b) := by
  cases items with
  | nil => exact .nil
  | cons a rest =>
      induction rest generalizing a with
      | nil => simp [List.eraseRepsBy, List.eraseRepsBy.loop]
      | cons b rest ih =>
          obtain ⟨hfirst, hrest⟩ := List.pairwise_cons.mp h
          rw [eraseRepsBy_cons_cons]
          split
          · exact ih a (h.sublist (.cons_cons a (List.sublist_cons_self b rest)))
          · next hne =>
              have hlt : lt (key a) (key b) :=
                (hfirst b List.mem_cons_self).resolve_left fun heq => hne (beq_iff_eq.mpr heq)
              refine List.pairwise_cons.mpr ⟨fun c hc => ?_, ih b hrest⟩
              rcases List.mem_cons.mp ((eraseRepsBy_sublist _).subset hc) with rfl | hc
              · exact hlt
              rcases (List.pairwise_cons.mp hrest).1 c hc with heq | hlt'
              · rwa [← heq]
              · exact trans_of lt hlt hlt'

end Keys

end ClientTraits
