import Mathlib.Data.List.Induction
import Mathlib.Data.List.Lex
import Mathlib.Data.List.Sort
import Mathlib.Data.Prod.Lex
import ClientTraits.Proofs.Resolution.Graph

/-!
# The order of discovery

The interfaces below a root are met in the order of a breadth-first search. That order is fixed
without a search: a way from the root is the list of entries that it takes; of two ways the shorter
one comes first, and among ways of one length the first entry that differs decides (`Way.place`).
An interface is discovered before another one if some way to it comes before all ways to the other.
There is only one list that has what the root reaches in this order (`Catalog.IsDiscovery.unique`).

What the search for the nodes of a graph has met in the end is a discovery
(`Searches.isDiscovery`).

## Proof shape

While the loop runs, each interface that was met has a way to it (`Catalog.Explores`). These ways
stand in their order, since all that was met comes before the ways through interfaces that have no
node yet; and a way through an interface that has a node is not before the one of the interface that
it leads to. One round keeps that (`Explores.round`).
-/

namespace ClientTraits

/-! ### Ways -/

/-- The entries that lead from an interface upwards, in their order. -/
abbrev Way := List Nat

namespace Way

/-- The place of a way among all ways: by its length, then by the first entry that differs. -/
def place (w : Way) : Nat ×ₗ List Nat :=
  toLex (w.length, w)

theorem place_lt_iff {v w : Way} :
    v.place < w.place ↔ v.length < w.length ∨ v.length = w.length ∧ v < w :=
  Prod.Lex.toLex_lt_toLex

theorem eq_of_place_eq {v w : Way} (h : v.place = w.place) : v = w :=
  congrArg Prod.snd (toLex.injective h)

theorem append_lt_append {v w : Way} (h : v < w) (hlength : v.length = w.length) (x y : Way) :
    v ++ x < w ++ y := by
  induction h with
  | nil => cases hlength
  | cons _ ih => exact .cons (ih (Nat.succ.inj hlength))
  | rel hlt => exact .rel hlt

/-- Of two ways that are longer by one entry, the earlier one goes on from the earlier one. -/
theorem place_snoc_lt_snoc {v w : Way} (h : v.place < w.place) (e f : Nat) :
    (v ++ [e]).place < (w ++ [f]).place := by
  simp only [place_lt_iff, List.length_append, List.length_singleton] at h ⊢
  rcases h with h | ⟨hlength, h⟩
  · exact Or.inl (Nat.add_lt_add_right h 1)
  · exact Or.inr ⟨by rw [hlength], append_lt_append h hlength [e] [f]⟩

theorem place_snoc_lt_snoc_self (w : Way) {e f : Nat} (h : e < f) :
    (w ++ [e]).place < (w ++ [f]).place := by
  rw [place_lt_iff, List.length_append, List.length_append]
  exact Or.inr ⟨rfl, List.Lex.append_left _ (.rel h) w⟩

theorem place_snoc_le_snoc {v w : Way} (h : v.place ≤ w.place) (e : Nat) :
    (v ++ [e]).place ≤ (w ++ [e]).place := by
  rcases h.eq_or_lt with heq | hlt
  · rw [eq_of_place_eq heq]
  · exact (place_snoc_lt_snoc hlt e e).le

theorem place_lt_snoc (w : Way) (e : Nat) : w.place < (w ++ [e]).place := by
  rw [place_lt_iff, List.length_append]
  exact Or.inl (Nat.lt_succ_self _)

end Way

namespace Catalog

/-- The parent that an interface lists under an entry, if it is declared. -/
def parentAt? (c : Catalog) (i : Interface) (entry : Nat) : Option Interface :=
  i.parents[entry]?.bind c.find?

/-- The interface that a way leads to. -/
def follow? (c : Catalog) (i : Interface) (w : Way) : Option Interface :=
  w.foldlM c.parentAt? i

variable {c : Catalog} {i j k : Interface}

theorem follow?_nil : c.follow? i [] = some i :=
  rfl

theorem follow?_snoc (w : Way) (e : Nat) :
    c.follow? i (w ++ [e]) = (c.follow? i w).bind fun j => c.parentAt? j e := by
  rw [follow?, List.foldlM_append]
  simp only [List.foldlM_cons, List.foldlM_nil, bind_pure]
  rfl

theorem follow?_snoc_of_follow? {w : Way} (h : c.follow? i w = some j) (e : Nat) :
    c.follow? i (w ++ [e]) = c.parentAt? j e := by
  rw [follow?_snoc, h]
  rfl

/-- What is reached is where some way leads. -/
theorem reaches_iff_exists_follow? : c.Reaches i j ↔ ∃ w, c.follow? i w = some j := by
  constructor
  · intro h
    induction h with
    | refl => exact ⟨[], follow?_nil⟩
    | tail _ hext ih =>
        obtain ⟨w, hw⟩ := ih
        obtain ⟨e, he⟩ := exists_step_of_extends hext
        exact ⟨w ++ [e], (follow?_snoc_of_follow? hw e).trans he⟩
  · rintro ⟨w, hw⟩
    induction w using List.reverseRecOn generalizing j with
    | nil => cases hw; exact Relation.ReflTransGen.refl
    | append_singleton v e ih =>
        rw [follow?_snoc] at hw
        obtain ⟨k, hk, hj⟩ := Option.bind_eq_some_iff.mp hw
        exact (ih hk).tail (extends_of_step hj)

/-! ### Discovery without a search -/

/-- Some way from the root to `j` comes before all ways to `k`. -/
def DiscoversBefore (c : Catalog) (root j k : Interface) : Prop :=
  ∃ w, c.follow? root w = some j ∧
    ∀ v, c.follow? root v = some k → Way.place w < Way.place v

/-- The list has what the root reaches, in the order in which a breadth-first search meets it. -/
structure IsDiscovery (c : Catalog) (root : Interface) (met : List Interface) : Prop where
  mem_iff : ∀ j, j ∈ met ↔ c.Reaches root j
  ordered : met.Pairwise (c.DiscoversBefore root)

theorem DiscoversBefore.asymm {root : Interface} (h : c.DiscoversBefore root j k) :
    ¬ c.DiscoversBefore root k j := by
  rintro ⟨v, hv, hbefore⟩
  obtain ⟨w, hw, hafter⟩ := h
  exact lt_asymm (hafter v hv) (hbefore w hw)

namespace IsDiscovery

variable {root : Interface} {met met' : List Interface}

/-- There is no other such list. -/
theorem unique (h : c.IsDiscovery root met) (h' : c.IsDiscovery root met') : met = met' := by
  have hasymm : Std.Asymm (c.DiscoversBefore root) := ⟨fun _ _ => DiscoversBefore.asymm⟩
  exact h.ordered.eq_of_mem_iff h'.ordered fun j => (h.mem_iff j).trans (h'.mem_iff j).symm

end IsDiscovery

/-! ### Ways to what was met -/

/-- The interfaces were found on these ways, which stand in their order. -/
structure Finds (c : Catalog) (root : Interface) (found : List (Way × Interface)) : Prop where
  leads : ∀ p ∈ found, c.follow? root p.1 = some p.2
  ordered : found.Pairwise fun p q => Way.place p.1 < Way.place q.1

/-- The interface was found, on a way that is not behind the given one. -/
def IsFoundBy (found : List (Way × Interface)) (w : Way) (j : Interface) : Prop :=
  ∃ q ∈ found, q.2 = j ∧ Way.place q.1 ≤ Way.place w

theorem IsFoundBy.append {found : List (Way × Interface)} {w : Way} {j : Interface}
    (h : IsFoundBy found w j) (more : List (Way × Interface)) : IsFoundBy (found ++ more) w j := by
  obtain ⟨q, hq, hqj⟩ := h
  exact ⟨q, List.mem_append_left more hq, hqj⟩

/-- What linking the entries of an interface from `e` on has to give, if the interface was found on
the way `w`: all that is found is found on ways that are one entry longer, and each declared parent
is found. -/
structure LinksFrom (c : Catalog) (root : Interface) (w : Way) (i : Interface) (e : Nat)
    (found more : List (Way × Interface)) : Prop where
  finds : c.Finds root (found ++ more)
  through : ∀ q ∈ more, ∃ f, q.1 = w ++ [f]
  covers : ∀ f j, e ≤ f → c.parentAt? i f = some j → IsFoundBy (found ++ more) (w ++ [f]) j

/-- One entry more is linked. -/
theorem LinksFrom.step {root : Interface} {w : Way} {i : Interface} {e : Nat}
    {found more : List (Way × Interface)} (h : c.LinksFrom root w i (e + 1) found more)
    (he : ∀ j, c.parentAt? i e = some j → IsFoundBy (found ++ more) (w ++ [e]) j) :
    c.LinksFrom root w i e found more where
  finds := h.finds
  through := h.through
  covers := by
    intro f j hf hj
    rcases Nat.eq_or_lt_of_le hf with rfl | hlt
    · exact he j hj
    · exact h.covers f j hlt hj

theorem exists_linksFrom {root : Interface} {w : Way} {i : Interface}
    (hw : c.follow? root w = some i) (child : String) {parents : List String} {e : Nat}
    {found : List (Way × Interface)} (hparents : i.parents.drop e = parents)
    (hinv : c.IsInventory (found.map Prod.snd)) (hfinds : c.Finds root found)
    (hbefore : ∀ q ∈ found, Way.place q.1 < Way.place (w ++ [e])) :
    ∃ more, (c.linkParents child (found.map Prod.snd) parents).value.1 =
        (found ++ more).map Prod.snd ∧ c.LinksFrom root w i e found more := by
  induction parents generalizing e found with
  | nil =>
      refine ⟨[], by rw [List.append_nil]; rfl, by rw [List.append_nil]; exact hfinds, ?_, ?_⟩
      · exact fun q hq => absurd hq List.not_mem_nil
      · intro f j hf hj
        have hlength : i.parents.length ≤ f := (List.drop_eq_nil_iff.mp hparents).trans hf
        rw [parentAt?, List.getElem?_eq_none hlength] at hj
        cases hj
  | cons parent rest ih =>
      have hrest : i.parents.drop (e + 1) = rest := by
        rw [← List.tail_drop, hparents, List.tail_cons]
      have hentry : c.parentAt? i e = c.find? parent := by
        rw [parentAt?, ← List.head?_drop, hparents]
        rfl
      have hlater : ∀ q ∈ found, Way.place q.1 < Way.place (w ++ [e + 1]) := fun q hq =>
        (hbefore q hq).trans (Way.place_snoc_lt_snoc_self w (Nat.lt_succ_self e))
      rw [linkParents]
      split
      · next p hp =>
          -- The parent was found before, hence on an earlier way.
          obtain ⟨more, hmet, hlinks⟩ := ih hrest hinv hfinds hlater
          refine ⟨more, hmet, hlinks.step fun j hj => ?_⟩
          obtain ⟨k, hk, hname⟩ := exists_of_positionIn hp
          have hmem : k ∈ found.map Prod.snd := List.mem_of_getElem? hk
          have heq : k = j := hinv.eq_of_find? hmem hname (hentry ▸ hj)
          obtain ⟨q, hq, hqk⟩ := List.mem_map.mp hmem
          exact ⟨q, List.mem_append_left more hq, hqk.trans heq, (hbefore q hq).le⟩
      · next hnew =>
          split
          · next j hj =>
              -- The parent is found now, on the way through this entry.
              have hmap : (found ++ [(w ++ [e], j)]).map Prod.snd = found.map Prod.snd ++ [j] := by
                rw [List.map_append, List.map_singleton]
              have hfinds' : c.Finds root (found ++ [(w ++ [e], j)]) := by
                constructor
                · rw [List.forall_mem_append, List.forall_mem_singleton]
                  exact ⟨hfinds.leads, (follow?_snoc_of_follow? hw e).trans (hentry.trans hj)⟩
                · rw [List.pairwise_append]
                  refine ⟨hfinds.ordered, List.pairwise_singleton _ _, fun q hq r hr => ?_⟩
                  rw [List.mem_singleton.mp hr]
                  exact hbefore q hq
              have hlater' : ∀ q ∈ found ++ [(w ++ [e], j)],
                  Way.place q.1 < Way.place (w ++ [e + 1]) := by
                rw [List.forall_mem_append, List.forall_mem_singleton]
                exact ⟨hlater, Way.place_snoc_lt_snoc_self w (Nat.lt_succ_self e)⟩
              obtain ⟨more, hmet, hlinks⟩ :=
                ih hrest (by rw [hmap]; exact hinv.append hj hnew) hfinds' hlater'
              have happend :
                  (found ++ [(w ++ [e], j)]) ++ more = found ++ (w ++ [e], j) :: more := by
                rw [List.append_assoc, List.singleton_append]
              rw [hmap] at hmet
              rw [happend] at hmet
              refine ⟨(w ++ [e], j) :: more, hmet, ?_⟩
              refine LinksFrom.step ⟨happend ▸ hlinks.finds, ?_, happend ▸ hlinks.covers⟩ ?_
              · exact List.forall_mem_cons.mpr ⟨⟨e, rfl⟩, hlinks.through⟩
              · intro k hk
                have heq : j = k := Option.some.inj (hj.symm.trans (hentry.symm.trans hk))
                exact ⟨_, List.mem_append_right found List.mem_cons_self, heq, le_rfl⟩
          · next hnone =>
              obtain ⟨more, hmet, hlinks⟩ := ih hrest hinv hfinds hlater
              refine ⟨more, hmet, hlinks.step fun j hj => ?_⟩
              rw [hentry, hnone] at hj
              cases hj

/-! ### Rounds -/

/-- What the search has met after a number of rounds: ways to all of it in their order, before all
ways through interfaces that are still to come; and all declared parents of those that are done. -/
structure Explores (c : Catalog) (root : Interface) (found : List (Way × Interface)) (done : Nat) :
    Prop where
  finds : c.Finds root found
  start : ([], root) ∈ found
  ahead : ∀ p ∈ found, ∀ q ∈ found.drop done, Way.place p.1 < Way.place (q.1 ++ [0])
  covers : ∀ p ∈ found.take done, ∀ e j, c.parentAt? p.2 e = some j →
    IsFoundBy found (p.1 ++ [e]) j

theorem Explores.init (c : Catalog) (root : Interface) : c.Explores root [([], root)] 0 where
  finds := ⟨List.forall_mem_singleton.mpr follow?_nil, List.pairwise_singleton _ _⟩
  start := List.mem_singleton_self _
  ahead := by
    intro p hp q hq
    rw [List.mem_singleton.mp hp, List.mem_singleton.mp hq]
    exact Way.place_lt_snoc [] 0
  covers := fun p hp => absurd hp List.not_mem_nil

/-- One more interface is done. -/
theorem Explores.step {root : Interface} {found more : List (Way × Interface)} {done : Nat}
    {w : Way} {i : Interface} (h : c.Explores root found done) (hi : found[done]? = some (w, i))
    (hlinks : c.LinksFrom root w i 0 found more) : c.Explores root (found ++ more) (done + 1) := by
  have hlt : done < found.length := (List.getElem?_eq_some_iff.mp hi).1
  have hdrop : found.drop done = (w, i) :: found.drop (done + 1) := by
    rw [List.drop_eq_getElem_cons hlt, (List.getElem?_eq_some_iff.mp hi).2]
  constructor
  · exact hlinks.finds
  · exact List.mem_append_left more h.start
  · rw [List.drop_append_of_le_length hlt]
    intro p hp q hq
    -- What is still to come was found behind `w`, on whose level it is or one above.
    have hwq : Way.place w < Way.place q.1 := by
      rcases List.mem_append.mp hq with hq | hq
      · have hordered := h.finds.ordered.drop (i := done)
        rw [hdrop, List.pairwise_cons] at hordered
        exact hordered.1 q hq
      · obtain ⟨f, hf⟩ := hlinks.through q hq
        rw [hf]
        exact Way.place_lt_snoc w f
    rcases List.mem_append.mp hp with hp | hp
    · have hpw : Way.place p.1 < Way.place (w ++ [0]) :=
        h.ahead p hp (w, i) (by rw [hdrop]; exact List.mem_cons_self)
      exact hpw.trans (Way.place_snoc_lt_snoc hwq 0 0)
    · obtain ⟨e, he⟩ := hlinks.through p hp
      rw [he]
      exact Way.place_snoc_lt_snoc hwq e 0
  · rw [List.take_append_of_le_length hlt, List.take_add_one, hi]
    intro p hp e j hj
    rcases List.mem_append.mp hp with hp | hp
    · exact (h.covers p hp e j hj).append more
    · rw [Option.toList_some, List.mem_singleton] at hp
      subst hp
      exact hlinks.covers e j (Nat.zero_le e) hj

/-- One round makes one more interface done. -/
theorem Explores.round {root : Interface} {s : Search} {x : Logged Search}
    (hround : c.round? s = some x) (hbuilding : c.Building s.met s.nodes)
    {found : List (Way × Interface)} (hmet : found.map Prod.snd = s.met)
    (h : c.Explores root found s.nodes.length) :
    ∃ found', found'.map Prod.snd = x.value.met ∧ c.Explores root found' x.value.nodes.length := by
  obtain ⟨i, hi, hvalue, -⟩ := round?_eq_some hround
  rw [← hmet, List.getElem?_map] at hi
  obtain ⟨⟨w, j⟩, hfound, heq⟩ := Option.map_eq_some_iff.mp hi
  subst heq
  have hmem : (w, j) ∈ found := List.mem_of_getElem? hfound
  -- All that was found comes before the ways through `j`.
  have hbefore : ∀ q ∈ found, Way.place q.1 < Way.place (w ++ [0]) := fun q hq =>
    h.ahead q hq (w, j) (List.mem_of_getElem? (i := 0) (by rw [List.getElem?_drop]; exact hfound))
  obtain ⟨more, hall, hlinks⟩ := exists_linksFrom (h.finds.leads _ hmem) j.name List.drop_zero
    (hmet ▸ hbuilding.inventory) h.finds hbefore
  refine ⟨found ++ more, ?_, ?_⟩
  · rw [hvalue, ← hall, hmet]
  · rw [hvalue, List.length_append, List.length_singleton]
    exact h.step hfound hlinks

/-- Whatever the root reaches was found, on a way that is not behind any other. -/
theorem Explores.isFoundBy {root : Interface} {found : List (Way × Interface)}
    (h : c.Explores root found found.length) {v : Way} {j : Interface}
    (hv : c.follow? root v = some j) : IsFoundBy found v j := by
  induction v using List.reverseRecOn generalizing j with
  | nil =>
      cases hv
      exact ⟨_, h.start, rfl, le_rfl⟩
  | append_singleton v e ih =>
      rw [follow?_snoc] at hv
      obtain ⟨k, hk, hj⟩ := Option.bind_eq_some_iff.mp hv
      obtain ⟨p, hp, rfl, hle⟩ := ih hk
      obtain ⟨q, hq, hqj, hle'⟩ := h.covers p (by rw [List.take_length]; exact hp) e j hj
      exact ⟨q, hq, hqj, hle'.trans (Way.place_snoc_le_snoc hle e)⟩

/-- When all interfaces are done, they are the ones to discover, in their order. -/
theorem Explores.isDiscovery {root : Interface} {found : List (Way × Interface)}
    (h : c.Explores root found found.length) (hinv : c.IsInventory (found.map Prod.snd)) :
    c.IsDiscovery root (found.map Prod.snd) where
  mem_iff := by
    intro j
    rw [reaches_iff_exists_follow?]
    constructor
    · intro hj
      obtain ⟨p, hp, rfl⟩ := List.mem_map.mp hj
      exact ⟨p.1, h.finds.leads p hp⟩
    · rintro ⟨v, hv⟩
      obtain ⟨q, hq, rfl, -⟩ := h.isFoundBy hv
      exact List.mem_map_of_mem hq
  ordered := by
    rw [List.pairwise_map]
    refine h.finds.ordered.imp_of_mem fun {p q} hp hq hlt =>
      ⟨p.1, h.finds.leads p hp, fun v hv => ?_⟩
    -- Nothing was found twice, so that `q` has the least way to its interface.
    obtain ⟨q', hq', heq, hle⟩ := h.isFoundBy hv
    have hsame : q' = q :=
      List.inj_on_of_nodup_map (hinv.distinct.of_map _) hq' hq heq
    rw [hsame] at hle
    exact hlt.trans_le hle

/-! ### The whole search -/

/-- Rounds keep what each of them keeps. -/
theorem Searches.explores {root : Interface} {s t : Search} {events : List Event}
    (h : c.Searches s events t) (hbuilding : c.Building s.met s.nodes)
    (hexplores : ∃ found, found.map Prod.snd = s.met ∧ c.Explores root found s.nodes.length) :
    ∃ found, found.map Prod.snd = t.met ∧ c.Explores root found t.nodes.length := by
  induction h with
  | refl s => exact hexplores
  | round hround _ ih =>
      obtain ⟨found, hmet, hfound⟩ := hexplores
      exact ih (hbuilding.round hround) (hfound.round hround hbuilding hmet)

/-- What a search from the root has met in the end is a discovery. -/
theorem Searches.isDiscovery {root : Interface} {s : Search} {events : List Event}
    (h : c.Searches ⟨[root], []⟩ events s) (hroot : c.find? root.name = some root)
    (hend : c.round? s = none) : c.IsDiscovery root s.met := by
  obtain ⟨found, hmet, hfound⟩ :=
    h.explores (.start hroot) ⟨[([], root)], rfl, Explores.init c root⟩
  obtain ⟨-, hbuilding⟩ := h.building (.start hroot)
  -- All that was met has a node.
  have hlength : s.nodes.length = found.length := by
    have htake := congrArg List.length hbuilding.nodes_eq
    have hnone := round?_eq_none_iff.mp hend
    rw [← hmet] at htake hnone
    simp only [List.length_map, List.length_take] at htake hnone
    omega
  rw [hlength] at hfound
  rw [← hmet]
  exact hfound.isDiscovery (by rw [hmet]; exact hbuilding.inventory)

end Catalog

end ClientTraits
