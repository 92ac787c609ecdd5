import Mathlib.Logic.Relation
import ClientTraits.Resolution.Walk
import ClientTraits.Proofs.Declaration.Lookup
import ClientTraits.Proofs.Resolution.Graph

/-!
# What a report depends on

Resolving a root looks only at names that the root reaches through lists of parents
(`Catalog.ReachesName`). Two catalogs that agree on these names, up to the marks of clients, give
the same report and the same events (`resolve_congr`), whatever else they hold and in whatever
order.

## Proof shape

The graph has all that the rest of a resolution needs, and it holds no marks, so that it suffices to
compare the two ways of building it. Both meet the same interfaces in the same order, up to marks
(`linkParents_congr`), and hence make the same nodes (`makeNodes_congr`). The names in a list of
interfaces that were met stay reachable (`mem_linkParents`), which is why the agreement is never
asked for any other name. The bounds on the number of nodes differ, as the sizes of the catalogs do;
both are large enough (`makeNodes_round`).
-/

namespace ClientTraits

/-! ### Marks -/

/-- The declaration without the mark of a client. -/
def Interface.unmarked (i : Interface) : Interface :=
  { i with isClient := false }

/-- Interfaces that agree up to the mark differ in nothing but the mark. -/
theorem Interface.exists_eq_of_unmarked {i j : Interface} (h : i.unmarked = j.unmarked) :
    ∃ mark, j = { i with isClient := mark } := by
  cases i
  cases j
  simp only [unmarked, mk.injEq, true_and] at h
  obtain ⟨rfl, rfl, rfl, rfl, rfl⟩ := h
  exact ⟨_, rfl⟩

/-- What agrees up to the mark is there on both sides or on none. -/
theorem cases_of_map_unmarked {x y : Option Interface}
    (h : x.map Interface.unmarked = y.map Interface.unmarked) :
    (x = none ∧ y = none) ∨ ∃ i mark, x = some i ∧ y = some { i with isClient := mark } := by
  cases x with
  | none => exact Or.inl ⟨rfl, Option.map_eq_none_iff.mp h.symm⟩
  | some i =>
      obtain ⟨j, rfl, hmark⟩ := Option.map_eq_some_iff.mp h.symm
      obtain ⟨mark, rfl⟩ := Interface.exists_eq_of_unmarked hmark.symm
      exact Or.inr ⟨i, mark, rfl, rfl⟩

/-- Marks do not matter for positions. -/
theorem positionIn_eq_of_unmarked {met met' : List Interface}
    (h : met.map Interface.unmarked = met'.map Interface.unmarked) (name : String) :
    positionIn met name = positionIn met' name := by
  have hmap : ∀ interfaces : List Interface,
      positionIn (interfaces.map Interface.unmarked) name = positionIn interfaces name :=
    fun _ => List.findIdx?_map ..
  rw [← hmap met, h, hmap]

/-- Computations with the same events go on alike if their results do. -/
theorem Logged.bind_eq_bind {α β : Type} {x x' : Logged α} {f f' : α → Logged β}
    (hevents : x.events = x'.events) (h : f x.value = f' x'.value) : x >>= f = x' >>= f' := by
  show (⟨(f x.value).value, x.events ++ (f x.value).events⟩ : Logged β) =
    ⟨(f' x'.value).value, x'.events ++ (f' x'.value).events⟩
  rw [h, hevents]

namespace Catalog

variable {c c' : Catalog}

/-! ### Names that are reached -/

/-- The parents that the declaration of a name lists; none without a declaration. -/
def parentsOf (c : Catalog) (name : String) : List String :=
  ((c.find? name).map Interface.parents).getD []

/-- A name is reached from another through lists of parents, or it is the same. It need not be
declared. -/
def ReachesName (c : Catalog) : String → String → Prop :=
  Relation.ReflTransGen fun name parent => parent ∈ c.parentsOf name

/-- Both catalogs find the same under a name, up to the mark of a client. -/
def AgreesAt (c c' : Catalog) (name : String) : Prop :=
  (c.find? name).map Interface.unmarked = (c'.find? name).map Interface.unmarked

instance (c c' : Catalog) (name : String) : Decidable (c.AgreesAt c' name) :=
  inferInstanceAs (Decidable (_ = _))

/-- A list of names that has the parents of each of them has all that are reached. -/
theorem ReachesName.mem_of_closed {names : List String} {root name : String}
    (h : c.ReachesName root name) (hroot : root ∈ names)
    (hclosed : ∀ name ∈ names, ∀ parent ∈ c.parentsOf name, parent ∈ names) : name ∈ names := by
  induction h with
  | refl => exact hroot
  | tail _ hparent ih => exact hclosed _ ih _ hparent

/-- The parents of an interface that is found under a reached name are reached. -/
theorem ReachesName.parent {root : String} {i : Interface} (h : c.ReachesName root i.name)
    (hi : c.find? i.name = some i) {parent : String} (hparent : parent ∈ i.parents) :
    c.ReachesName root parent := by
  refine Relation.ReflTransGen.tail h ?_
  rw [parentsOf, hi]
  exact hparent

/-! ### One round of building -/

/-- Linking meets no interface that is not a parent. -/
theorem mem_linkParents {child : String} {met : List Interface} {parents : List String}
    {j : Interface} (h : j ∈ (c.linkParents child met parents).value.1) :
    j ∈ met ∨ j.name ∈ parents := by
  induction parents generalizing met with
  | nil => exact Or.inl h
  | cons parent rest ih =>
      rw [linkParents] at h
      split at h
      · exact (ih h).imp_right (List.mem_cons_of_mem parent)
      · split at h
        · next i hi =>
            rcases ih h with hj | hj
            · rcases List.mem_append.mp hj with hj | hj
              · exact Or.inl hj
              · rw [List.mem_singleton.mp hj, name_of_find? hi]
                exact Or.inr List.mem_cons_self
            · exact Or.inr (List.mem_cons_of_mem parent hj)
        · exact (ih h).imp_right (List.mem_cons_of_mem parent)

/-- Catalogs that agree on the parents link them alike. -/
theorem linkParents_congr (child : String) {met met' : List Interface} {parents : List String}
    (hmet : met.map Interface.unmarked = met'.map Interface.unmarked)
    (h : ∀ parent ∈ parents, c.AgreesAt c' parent) :
    (c.linkParents child met parents).events = (c'.linkParents child met' parents).events ∧
      (c.linkParents child met parents).value.2 = (c'.linkParents child met' parents).value.2 ∧
      (c.linkParents child met parents).value.1.map Interface.unmarked =
        (c'.linkParents child met' parents).value.1.map Interface.unmarked := by
  induction parents generalizing met met' with
  | nil => exact ⟨rfl, rfl, hmet⟩
  | cons parent rest ih =>
      have hparent := h parent List.mem_cons_self
      have hrest := fun name hname => h name (List.mem_cons_of_mem parent hname)
      have hposition : (met.findIdx? fun i => i.name == parent) =
          met'.findIdx? fun i => i.name == parent := positionIn_eq_of_unmarked hmet parent
      have hlength : met.length = met'.length := by
        rw [← List.length_map (f := Interface.unmarked), hmet, List.length_map]
      rw [linkParents, linkParents, ← hposition]
      cases met.findIdx? fun i => i.name == parent with
      | some position =>
          obtain ⟨hevents, hpositions, hall⟩ := ih hmet hrest
          exact ⟨congrArg (· ++ []) hevents, congrArg (position :: ·) hpositions, hall⟩
      | none =>
          rcases cases_of_map_unmarked hparent with ⟨hi, hi'⟩ | ⟨i, mark, hi, hi'⟩
          · simp only [hi, hi']
            obtain ⟨hevents, hpositions, hall⟩ := ih hmet hrest
            exact ⟨congrArg ([Event.undeclaredParent child parent] ++ ·) hevents, hpositions, hall⟩
          · have hmet' : (met ++ [i]).map Interface.unmarked =
                (met' ++ [{ i with isClient := mark }]).map Interface.unmarked := by
              rw [List.map_append, List.map_append, hmet]
              rfl
            simp only [hi, hi']
            obtain ⟨hevents, hpositions, hall⟩ := ih hmet' hrest
            refine ⟨congrArg (· ++ []) hevents, ?_, hall⟩
            show met.length :: _ = met'.length :: _
            rw [hlength, hpositions]

/-- One round of building, without regard to the bound: if that is used up, no interface is left. -/
theorem makeNodes_round {bound : Nat} {met : List Interface} {nodes : List Node}
    (h : c.IsInventory met) (hbound : c.size ≤ nodes.length + bound) :
    c.makeNodes bound met nodes =
      match met[nodes.length]? with
      | none => pure nodes
      | some i => i.collectMethods >>= fun methods =>
          c.linkParents i.name met i.parents >>= fun linked =>
            c.makeNodes (bound - 1) linked.1 (nodes ++ [⟨i.name, i.shared, methods, linked.2⟩]) := by
  cases bound with
  | zero =>
      have hlength : met.length ≤ nodes.length := Nat.le_trans h.length_le_size hbound
      rw [List.getElem?_eq_none hlength, makeNodes]
  | succ bound => rw [makeNodes]; rfl

/-- Catalogs that agree on all reached names make the same nodes. -/
theorem makeNodes_congr {root : String}
    (h : ∀ name, c.ReachesName root name → c.AgreesAt c' name) {bound bound' : Nat}
    {met met' : List Interface} {nodes : List Node}
    (hmet : met.map Interface.unmarked = met'.map Interface.unmarked)
    (hreach : ∀ i ∈ met, c.ReachesName root i.name) (hinv : c.IsInventory met)
    (hinv' : c'.IsInventory met') (hbound : c.size ≤ nodes.length + bound)
    (hbound' : c'.size ≤ nodes.length + bound') :
    c.makeNodes bound met nodes = c'.makeNodes bound' met' nodes := by
  -- Each round makes a node, and there are no more nodes than interfaces in the catalog.
  induction hn : c.size - nodes.length using Nat.strongRecOn
    generalizing bound bound' met met' nodes with
  | ind n ih =>
      have hget : (met[nodes.length]?).map Interface.unmarked =
          (met'[nodes.length]?).map Interface.unmarked := by
        rw [← List.getElem?_map, hmet, List.getElem?_map]
      rw [makeNodes_round hinv hbound, makeNodes_round hinv' hbound']
      rcases cases_of_map_unmarked hget with ⟨hi, hi'⟩ | ⟨i, mark, hi, hi'⟩
      · simp only [hi, hi']
      · simp only [hi, hi']
        have hmem : i ∈ met := List.mem_of_getElem? hi
        have hparents : ∀ parent ∈ i.parents, c.ReachesName root parent :=
          fun parent => (hreach i hmem).parent (hinv.declared i hmem)
        obtain ⟨hevents, hpositions, hall⟩ := linkParents_congr i.name hmet
          fun parent hparent => h parent (hparents parent hparent)
        refine bind_congr fun methods => Logged.bind_eq_bind hevents ?_
        rw [hpositions]
        have hlt : nodes.length < c.size :=
          Nat.lt_of_lt_of_le (List.getElem?_eq_some_iff.mp hi).1 hinv.length_le_size
        have hlength : ∀ node : Node, (nodes ++ [node]).length = nodes.length + 1 :=
          fun _ => List.length_append
        refine ih _ ?_ hall (fun j hj => ?_) (linkParents_linked i.name hinv i.parents).inventory
          (linkParents_linked i.name hinv' i.parents).inventory ?_ ?_ rfl
        · rw [hlength]
          omega
        · rcases mem_linkParents hj with hj | hj
          · exact hreach j hj
          · exact hparents j.name hj
        · rw [hlength]
          omega
        · rw [hlength]
          omega

/-! ### Resolving -/

/-- Catalogs that agree on all reached names have the same graph below the root. -/
theorem graph?_congr {root : String}
    (h : ∀ name, c.ReachesName root name → c.AgreesAt c' name) : c.graph? root = c'.graph? root := by
  rw [graph?, graph?]
  rcases cases_of_map_unmarked (h root Relation.ReflTransGen.refl) with
    ⟨hi, hi'⟩ | ⟨i, mark, hi, hi'⟩
  · rw [hi, hi']
    rfl
  · have hreach : ∀ j ∈ [i], c.ReachesName root j.name := by
      intro j hj
      rw [List.mem_singleton.mp hj, name_of_find? hi]
      exact Relation.ReflTransGen.refl
    have hnodes : c.makeNodes c.size [i] [] =
        c'.makeNodes c'.size [{ i with isClient := mark }] [] :=
      makeNodes_congr h rfl hreach (.singleton hi) (.singleton hi') (Nat.le_add_left ..)
        (Nat.le_add_left ..)
    rw [hi, hi', Option.map_some, Option.map_some, hnodes]

/-- Catalogs that agree on all reached names resolve the root alike. -/
theorem resolve_congr {root : String}
    (h : ∀ name, c.ReachesName root name → c.AgreesAt c' name) :
    c.resolve root = c'.resolve root := by
  rw [resolve, resolve, graph?_congr h]

/-- The catalog with other marks of clients. -/
def marked (c : Catalog) (mark : Interface → Bool) : Catalog :=
  ⟨c.interfaces.map fun i => { i with isClient := mark i }⟩

theorem agreesAt_marked (c : Catalog) (mark : Interface → Bool) (name : String) :
    c.AgreesAt (c.marked mark) name := by
  have hfind : (c.marked mark).find? name =
      (c.find? name).map fun i => { i with isClient := mark i } :=
    find?_map (fun i => { i with isClient := mark i }) (fun _ => rfl) c name
  rw [AgreesAt, hfind, Option.map_map]
  rfl

/-- **A report depends on what the root reaches.** Catalogs that agree on all names that the root
reaches, up to marks of clients, give the same report and the same events. So it makes no difference

* in which order declarations are inserted, as long as those of one name keep theirs;
* what is inserted under a name that the root does not reach;
* which interfaces are clients. -/
theorem resolve_depends_on_reached :
    (∀ (c c' : Catalog) (root : String),
      (∀ name, c.ReachesName root name → c.AgreesAt c' name) → c.resolve root = c'.resolve root) ∧
    (∀ interfaces interfaces' : List Interface,
      (∀ name, (interfaces.filter fun i => i.name == name) =
        interfaces'.filter fun i => i.name == name) →
      ∀ root, (ofList interfaces).resolve root = (ofList interfaces').resolve root) ∧
    (∀ (c : Catalog) (i : Interface) (root : String),
      ¬ c.ReachesName root i.name → (c.insert i).resolve root = c.resolve root) ∧
    ∀ (c : Catalog) (mark : Interface → Bool) (root : String),
      (c.marked mark).resolve root = c.resolve root := by
  refine ⟨fun c c' root h => resolve_congr h, ?_, ?_, ?_⟩
  · intro interfaces interfaces' h root
    refine resolve_congr fun name _ => ?_
    rw [AgreesAt, find?_ofList, find?_ofList, h]
  · intro c i root hnot
    refine (resolve_congr fun name hname => ?_).symm
    have hne : i.name ≠ name := fun heq => hnot (heq ▸ hname)
    rw [AgreesAt, find?_insert, if_neg hne]
  · intro c mark root
    exact (resolve_congr fun name _ => c.agreesAt_marked mark name).symm

/-- An interface that `tangledRoot` does not reach, although it extends it. -/
def strayInterface : Interface :=
  layer "Stray" ["Api"] true

/-- The interfaces of `tangledCatalog` in another order, with other marks and a stray one. -/
def shuffledCatalog : Catalog :=
  .ofList [layer "Base" ["Base", "Left"] false, strayInterface, layer "Right" ["Base"] true,
    { tangledRoot with isClient := false }, { layer "Left" ["Base"] true with isClient := false }]

theorem resolve_shuffledCatalog :
    (∀ name, tangledCatalog.ReachesName "Api" name →
      tangledCatalog.AgreesAt shuffledCatalog name) ∧
    tangledCatalog.resolve "Api" = shuffledCatalog.resolve "Api" ∧
    (∀ name, ([tangledRoot, strayInterface].filter fun i => i.name == name) =
      [strayInterface, tangledRoot].filter fun i => i.name == name) ∧
    (ofList [tangledRoot, strayInterface]).resolve "Api" =
      (ofList [strayInterface, tangledRoot]).resolve "Api" ∧
    ¬ tangledCatalog.ReachesName "Api" "Stray" ∧
    (tangledCatalog.insert strayInterface).resolve "Api" = tangledCatalog.resolve "Api" := by
  obtain ⟨hcongr, horder, hinsert, -⟩ := resolve_depends_on_reached
  have hreached : ∀ name, tangledCatalog.ReachesName "Api" name →
      name ∈ ["Api", "Left", "Missing", "Right", "Base"] :=
    fun name h => h.mem_of_closed (by decide) (by decide +kernel)
  have hagree : ∀ name, tangledCatalog.ReachesName "Api" name →
      tangledCatalog.AgreesAt shuffledCatalog name := by
    intro name h
    have hall : ∀ name ∈ ["Api", "Left", "Missing", "Right", "Base"],
        tangledCatalog.AgreesAt shuffledCatalog name := by decide +kernel
    exact hall name (hreached name h)
  have hfilter : ∀ name, ([tangledRoot, strayInterface].filter fun i => i.name == name) =
      [strayInterface, tangledRoot].filter fun i => i.name == name := by
    intro name
    by_cases hroot : name = "Api"
    · subst hroot
      decide +kernel
    · have hne : (tangledRoot.name == name) = false := beq_eq_false_iff_ne.mpr (Ne.symm hroot)
      rw [List.filter_cons, List.filter_cons, List.filter_cons, List.filter_cons, hne]
      rfl
  have hstray : ¬ tangledCatalog.ReachesName "Api" "Stray" := by
    intro h
    exact absurd (hreached "Stray" h) (by decide)
  exact ⟨hagree, hcongr _ _ "Api" hagree, hfilter, horder _ _ hfilter "Api", hstray,
    hinsert tangledCatalog strayInterface "Api" hstray⟩

end Catalog

end ClientTraits
