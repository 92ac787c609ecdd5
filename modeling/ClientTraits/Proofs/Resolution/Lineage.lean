import Mathlib.Data.List.Nodup
import Mathlib.Logic.Relation
import ClientTraits.Declaration.Catalog

/-!
# Lineages

A lineage leads from an interface upwards: from each interface on it to one of the parents that the
interface lists. The entry of the list is part of it, so that a parent that is listed twice gives
two lineages. A lineage is simple if it meets no interface twice.

`Catalog.lineages` lists the simple lineages of an interface by looking every parent up by its name.
The list is the only one with two properties:

* it has exactly the simple lineages in the catalog (`mem_lineages`);
* they stand in the strict order of their entries, one that is a part of another before it
  (`lineages_pairwise_lt`). This is the order of a depth-first search in preorder.

What can be reached from an interface is reached by a simple lineage (`exists_lineage_of_reaches`),
since any other lineage can be cut where it comes back to an interface.
-/

namespace ClientTraits

/-! ### Lineages as data -/

/-- A way from an interface upwards. -/
inductive Lineage
  /-- The interface itself. -/
  | self (i : Interface)
  /-- From an interface through the given entry of its parents on to where `rest` begins. -/
  | via (i : Interface) (entry : Nat) (rest : Lineage)
  deriving DecidableEq, Repr

namespace Lineage

/-- The interface that the lineage begins with. -/
def first : Lineage → Interface
  | self i => i
  | via i _ _ => i

/-- The interface that the lineage leads to. -/
def last : Lineage → Interface
  | self i => i
  | via _ _ rest => rest.last

/-- The interfaces that the lineage meets, in their order. -/
def interfaces : Lineage → List Interface
  | self i => [i]
  | via i _ rest => i :: rest.interfaces

/-- The entries that the lineage takes, in their order. -/
def entries : Lineage → List Nat
  | self _ => []
  | via _ entry rest => entry :: rest.entries

/-- The names of the interfaces that the lineage meets. -/
def names (l : Lineage) : List String :=
  l.interfaces.map Interface.name

/-- The names of the interfaces behind the first one. -/
def above : Lineage → List String
  | self _ => []
  | via _ _ rest => rest.names

/-- Every step of the lineage is a declared parent, found under its entry. -/
def IsIn (c : Catalog) : Lineage → Prop
  | self _ => True
  | via i entry rest => i.parents[entry]?.bind c.find? = some rest.first ∧ rest.IsIn c

theorem names_eq_cons (l : Lineage) : l.names = l.first.name :: l.above := by
  cases l <;> rfl

theorem mem_names_iff (l : Lineage) {name : String} :
    name ∈ l.names ↔ name ∈ l.above ∨ name ∈ [l.first.name] := by
  rw [l.names_eq_cons, List.mem_cons, List.mem_singleton, or_comm]

/-- The names of a lineage are new behind `seen` if its first name is, and the other ones are new
behind that one, too. -/
theorem names_fresh_iff (l : Lineage) (seen : List String) :
    (l.names.Nodup ∧ ∀ name ∈ l.names, name ∉ seen) ↔
      l.first.name ∉ seen ∧ l.above.Nodup ∧ ∀ name ∈ l.above, name ∉ l.first.name :: seen := by
  rw [l.names_eq_cons, List.nodup_cons, List.forall_mem_cons]
  constructor
  · intro hnames
    obtain ⟨⟨hfirst, hnodup⟩, hseen, hfresh⟩ := hnames
    refine ⟨hseen, hnodup, fun name hname hcons => ?_⟩
    rcases List.mem_cons.mp hcons with rfl | h
    · exact hfirst hname
    · exact hfresh name hname h
  · intro hnew
    obtain ⟨hseen, hnodup, hfresh⟩ := hnew
    refine ⟨⟨fun h => hfresh _ h List.mem_cons_self, hnodup⟩, hseen, fun name hname h => ?_⟩
    exact hfresh name hname (List.mem_cons_of_mem _ h)

theorem names_nodup_iff (l : Lineage) :
    l.names.Nodup ↔ l.above.Nodup ∧ ∀ name ∈ l.above, name ∉ [l.first.name] := by
  have hfresh := l.names_fresh_iff []
  simpa only [List.not_mem_nil, not_false_eq_true, implies_true, and_true, true_and] using hfresh

end Lineage

/-! ### Extension -/

namespace Catalog

/-- An interface lists another, which is declared. -/
def Extends (c : Catalog) (i j : Interface) : Prop :=
  ∃ parent ∈ i.parents, c.find? parent = some j

/-- An interface is reached from another by extension, or it is the same. -/
def Reaches (c : Catalog) : Interface → Interface → Prop :=
  Relation.ReflTransGen c.Extends

theorem name_of_find? {c : Catalog} {name : String} {i : Interface}
    (h : c.find? name = some i) : i.name = name := by
  have hname := List.find?_some h
  exact beq_iff_eq.mp hname

theorem mem_of_find? {c : Catalog} {name : String} {i : Interface}
    (h : c.find? name = some i) : i ∈ c.interfaces :=
  List.mem_of_find?_eq_some h

/-! ### The list of simple lineages -/

/-- The number of interfaces whose names are not among `seen`. -/
def unseen (c : Catalog) (seen : List String) : Nat :=
  (c.interfaces.filter fun i => i.name ∉ seen).length

/-- A declared interface that was not seen counts. -/
theorem unseen_cons_lt {c : Catalog} {seen : List String} {name : String} {j : Interface}
    (hj : c.find? name = some j) (hseen : j.name ∉ seen) :
    c.unseen (j.name :: seen) < c.unseen seen := by
  -- What is unseen behind one more name is filtered once more, and `j` drops out there.
  have hsplit : c.interfaces.filter (fun i => i.name ∉ j.name :: seen) =
      (c.interfaces.filter fun i => i.name ∉ seen).filter (fun i => i.name ≠ j.name) := by
    rw [List.filter_filter]
    congr 1
    funext i
    simp
  rw [unseen, hsplit, unseen, List.length_filter_lt_length_iff_exists]
  refine ⟨j, List.mem_filter.mpr ⟨mem_of_find? hj, by simpa using hseen⟩, by simp⟩

/-- What holds of an interface behind `seen` as soon as it holds of its declared parents that were
not seen, holds of every interface. -/
theorem unseen_induction (c : Catalog) {motive : List String → Interface → Prop}
    (step : ∀ seen i, (∀ name j, c.find? name = some j → j.name ∉ seen →
      motive (j.name :: seen) j) → motive seen i) (seen : List String) (i : Interface) :
    motive seen i := by
  induction hn : c.unseen seen using Nat.strongRecOn generalizing seen i with
  | ind n ih =>
      -- Each step up a lineage leaves fewer interfaces unseen.
      refine step seen i fun name j hj hseen => ?_
      exact ih _ (hn ▸ unseen_cons_lt hj hseen) (j.name :: seen) j rfl

/-- The lineages of an interface that meet no interface twice and, behind the first one, none whose
name is among `seen`. -/
def lineagesFrom (c : Catalog) (seen : List String) (i : Interface) : List Lineage :=
  .self i :: i.parents.zipIdx.flatMap fun (parent, entry) =>
    match _ : c.find? parent with
    | none => []
    | some j =>
      if j.name ∈ seen then []
      else (c.lineagesFrom (j.name :: seen) j).map (.via i entry)
  termination_by c.unseen seen
  decreasing_by exact unseen_cons_lt (by assumption) (by assumption)

/-- The simple lineages of an interface. -/
def lineages (c : Catalog) (i : Interface) : List Lineage :=
  c.lineagesFrom [i.name] i

/-- The lineages that go on from `i` through one of its entries. -/
def lineagesThrough (c : Catalog) (seen : List String) (i : Interface) (parent : String)
    (entry : Nat) : List Lineage :=
  match c.find? parent with
  | none => []
  | some j =>
    if j.name ∈ seen then []
    else (c.lineagesFrom (j.name :: seen) j).map (.via i entry)

theorem lineagesFrom_eq (c : Catalog) (seen : List String) (i : Interface) :
    c.lineagesFrom seen i =
      .self i :: i.parents.zipIdx.flatMap fun p => c.lineagesThrough seen i p.1 p.2 := by
  rw [lineagesFrom]
  congr 2
  funext ⟨parent, entry⟩
  simp only [lineagesThrough]
  split
  · next h => rw [h]
  · next j h => rw [h]

theorem mem_lineagesThrough {c : Catalog} {seen : List String} {i : Interface} {parent : String}
    {entry : Nat} {l : Lineage} :
    l ∈ c.lineagesThrough seen i parent entry ↔
      ∃ j rest, c.find? parent = some j ∧ j.name ∉ seen ∧
        rest ∈ c.lineagesFrom (j.name :: seen) j ∧ l = .via i entry rest := by
  rw [lineagesThrough]
  cases hj : c.find? parent with
  | none => simp
  | some j =>
      by_cases hseen : j.name ∈ seen
      · simp only [if_pos hseen, List.not_mem_nil, false_iff]
        intro hl
        obtain ⟨j', rest, hj', hseen', -⟩ := hl
        cases hj'
        exact hseen' hseen
      · simp only [if_neg hseen, List.mem_map]
        constructor
        · intro hl
          obtain ⟨rest, hrest, rfl⟩ := hl
          exact ⟨j, rest, rfl, hseen, hrest, rfl⟩
        · intro hl
          obtain ⟨j', rest, hj', -, hrest, rfl⟩ := hl
          cases hj'
          exact ⟨rest, hrest, rfl⟩

/-! ### It has the simple lineages -/

/-- What the list has, by its first step. -/
theorem mem_lineagesFrom_iff_step {c : Catalog} {seen : List String} {i : Interface} {l : Lineage} :
    l ∈ c.lineagesFrom seen i ↔ l = .self i ∨
      ∃ entry j rest, i.parents[entry]?.bind c.find? = some j ∧ j.name ∉ seen ∧
        rest ∈ c.lineagesFrom (j.name :: seen) j ∧ l = .via i entry rest := by
  rw [lineagesFrom_eq, List.mem_cons, List.mem_flatMap]
  refine or_congr_right ⟨?_, ?_⟩
  · intro hl
    obtain ⟨⟨parent, entry⟩, hentry, hl⟩ := hl
    obtain ⟨j, rest, hj, hseen, hrest, rfl⟩ := mem_lineagesThrough.mp hl
    have hget : i.parents[entry]? = some parent := List.mem_zipIdx_iff_getElem?.mp hentry
    exact ⟨entry, j, rest, by rw [hget]; exact hj, hseen, hrest, rfl⟩
  · intro hl
    obtain ⟨entry, j, rest, hstep, hseen, hrest, rfl⟩ := hl
    obtain ⟨parent, hget, hj⟩ := Option.bind_eq_some_iff.mp hstep
    exact ⟨(parent, entry), List.mem_zipIdx_iff_getElem?.mpr hget,
      mem_lineagesThrough.mpr ⟨j, rest, hj, hseen, hrest, rfl⟩⟩

theorem first_of_mem_lineagesFrom {c : Catalog} {seen : List String} {i : Interface} {l : Lineage}
    (h : l ∈ c.lineagesFrom seen i) : l.first = i := by
  rcases mem_lineagesFrom_iff_step.mp h with rfl | ⟨_, _, _, -, -, -, rfl⟩ <;> rfl

theorem mem_lineagesFrom {c : Catalog} {seen : List String} {i : Interface} {l : Lineage} :
    l ∈ c.lineagesFrom seen i ↔
      l.first = i ∧ l.IsIn c ∧ l.above.Nodup ∧ ∀ name ∈ l.above, name ∉ seen := by
  induction l generalizing seen i with
  | self k =>
      rw [mem_lineagesFrom_iff_step]
      constructor
      · intro hl
        rcases hl with h | ⟨_, _, _, -, -, -, h⟩
        · cases h
          exact ⟨rfl, trivial, List.nodup_nil, fun _ h => absurd h List.not_mem_nil⟩
        · cases h
      · intro hl
        obtain ⟨rfl, -⟩ := hl
        exact Or.inl rfl
  | via k entry rest ih =>
      rw [mem_lineagesFrom_iff_step]
      constructor
      · intro hl
        rcases hl with h | ⟨entry', j, rest', hstep, hseen, hrest, h⟩
        · cases h
        · cases h
          obtain ⟨rfl, hin, hnodup, hfresh⟩ := ih.mp hrest
          exact ⟨rfl, ⟨hstep, hin⟩, (rest.names_fresh_iff seen).mpr ⟨hseen, hnodup, hfresh⟩⟩
      · intro hl
        obtain ⟨rfl, ⟨hstep, hin⟩, hnames⟩ := hl
        obtain ⟨hseen, hnodup, hfresh⟩ := (rest.names_fresh_iff seen).mp hnames
        exact Or.inr ⟨entry, rest.first, rest, hstep, hseen, ih.mpr ⟨rfl, hin, hnodup, hfresh⟩, rfl⟩

/-- The list has exactly the simple lineages in the catalog. -/
theorem mem_lineages {c : Catalog} {i : Interface} {l : Lineage} :
    l ∈ c.lineages i ↔ l.first = i ∧ l.IsIn c ∧ l.names.Nodup := by
  rw [lineages, mem_lineagesFrom, l.names_nodup_iff]
  constructor
  · intro hl
    obtain ⟨rfl, hin, hfresh⟩ := hl
    exact ⟨rfl, hin, hfresh⟩
  · intro hl
    obtain ⟨rfl, hin, hfresh⟩ := hl
    exact ⟨rfl, hin, hfresh⟩

/-! ### It is in the order of a depth-first search -/

theorem lineagesFrom_pairwise_lt (c : Catalog) (seen : List String) (i : Interface) :
    (c.lineagesFrom seen i).Pairwise fun a b => a.entries < b.entries := by
  induction seen, i using c.unseen_induction with
  | step seen i ih =>
      rw [lineagesFrom_eq, List.pairwise_cons, List.pairwise_flatMap]
      refine ⟨?_, ?_, ?_⟩
      · -- The interface itself takes no entry, hence it stands before all others.
        intro l hl
        obtain ⟨⟨parent, entry⟩, -, hl⟩ := List.mem_flatMap.mp hl
        obtain ⟨j, rest, -, -, -, rfl⟩ := mem_lineagesThrough.mp hl
        exact List.Lex.nil
      · -- Of two lineages through one entry, what is behind it decides.
        intro ⟨parent, entry⟩ _
        rw [lineagesThrough]
        cases hj : c.find? parent with
        | none => exact List.Pairwise.nil
        | some j =>
            by_cases hseen : j.name ∈ seen
            · simp only [if_pos hseen]
              exact List.Pairwise.nil
            · simp only [if_neg hseen]
              rw [List.pairwise_map]
              exact (ih parent j hj hseen).imp fun h => List.Lex.cons h
      · -- Of two lineages through different entries, these entries decide.
        have hentries : i.parents.zipIdx.Pairwise fun p q => p.2 < q.2 := by
          have hlt : (List.range' 0 i.parents.length).Pairwise (· < ·) := List.pairwise_lt_range'
          rw [← List.zipIdx_map_snd 0 i.parents, List.pairwise_map] at hlt
          exact hlt
        refine hentries.imp fun {p q} hpq a ha b hb => ?_
        obtain ⟨_, _, -, -, -, rfl⟩ := mem_lineagesThrough.mp ha
        obtain ⟨_, _, -, -, -, rfl⟩ := mem_lineagesThrough.mp hb
        exact List.Lex.rel hpq

/-- The list is in the strict order of the entries. -/
theorem lineages_pairwise_lt (c : Catalog) (i : Interface) :
    (c.lineages i).Pairwise fun a b => a.entries < b.entries :=
  c.lineagesFrom_pairwise_lt [i.name] i

/-! ### Reachability -/

theorem extends_of_step {c : Catalog} {i j : Interface} {entry : Nat}
    (h : i.parents[entry]?.bind c.find? = some j) : c.Extends i j := by
  obtain ⟨parent, hget, hj⟩ := Option.bind_eq_some_iff.mp h
  exact ⟨parent, List.mem_of_getElem? hget, hj⟩

theorem exists_step_of_extends {c : Catalog} {i j : Interface} (h : c.Extends i j) :
    ∃ entry : Nat, i.parents[entry]?.bind c.find? = some j := by
  obtain ⟨parent, hmem, hj⟩ := h
  obtain ⟨entry, hget⟩ := List.mem_iff_getElem?.mp hmem
  exact ⟨entry, by rw [hget]; exact hj⟩

theorem find?_name_of_extends {c : Catalog} {i j : Interface} (h : c.Extends i j) :
    c.find? j.name = some j := by
  obtain ⟨parent, -, hj⟩ := h
  rw [name_of_find? hj]
  exact hj

/-- A lineage leads to what its first interface reaches. -/
theorem reaches_last {c : Catalog} {l : Lineage} (h : l.IsIn c) : c.Reaches l.first l.last := by
  induction l with
  | self i => exact Relation.ReflTransGen.refl
  | via i entry rest ih =>
      obtain ⟨hstep, hrest⟩ := h
      exact Relation.ReflTransGen.head (extends_of_step hstep) (ih hrest)

/-- A lineage can be cut before any interface that it meets. -/
theorem exists_lineage_suffix {c : Catalog} {l : Lineage} (hin : l.IsIn c)
    (hfirst : c.find? l.first.name = some l.first) {name : String} (hname : name ∈ l.names) :
    ∃ rest : Lineage, rest.IsIn c ∧ c.find? name = some rest.first ∧ rest.last = l.last ∧
      rest.names <:+ l.names ∧ c.Reaches l.first rest.first := by
  induction l with
  | self i =>
      rw [List.mem_singleton.mp hname]
      exact ⟨.self i, hin, hfirst, rfl, List.suffix_refl _, Relation.ReflTransGen.refl⟩
  | via i entry l ih =>
      rcases List.mem_cons.mp hname with rfl | hname
      · exact ⟨.via i entry l, hin, hfirst, rfl, List.suffix_refl _, Relation.ReflTransGen.refl⟩
      · have hext : c.Extends i l.first := extends_of_step hin.1
        obtain ⟨rest, hrest, hfind, hlast, hnames, hreach⟩ :=
          ih hin.2 (find?_name_of_extends hext) hname
        exact ⟨rest, hrest, hfind, hlast, hnames.trans (List.suffix_cons _ _),
          Relation.ReflTransGen.head hext hreach⟩

/-- What a declared interface reaches is the end of one of its simple lineages. -/
theorem exists_lineage_of_reaches {c : Catalog} {i j : Interface}
    (hi : c.find? i.name = some i) (h : c.Reaches i j) : ∃ l ∈ c.lineages i, l.last = j := by
  induction h using Relation.ReflTransGen.head_induction_on with
  | refl => exact ⟨.self j, mem_lineages.mpr ⟨rfl, trivial, List.nodup_singleton _⟩, rfl⟩
  | @head i k hik _ ih =>
      obtain ⟨l, hl, rfl⟩ := ih (find?_name_of_extends hik)
      obtain ⟨rfl, hin, hnodup⟩ := mem_lineages.mp hl
      by_cases hname : i.name ∈ l.names
      · -- The lineage comes back to `i`: what is behind that is one from `i`.
        obtain ⟨rest, hrest, hfind, hlast, hnames, -⟩ :=
          exists_lineage_suffix hin (find?_name_of_extends hik) hname
        have hfirst : rest.first = i := Option.some.inj (hfind.symm.trans hi)
        exact ⟨rest, mem_lineages.mpr ⟨hfirst, hrest, hnodup.sublist hnames.sublist⟩, hlast⟩
      · -- The lineage goes around `i`, which may stand in front of it.
        obtain ⟨entry, hstep⟩ := exists_step_of_extends hik
        exact ⟨.via i entry l, mem_lineages.mpr
          ⟨rfl, ⟨hstep, hin⟩, List.nodup_cons.mpr ⟨hname, hnodup⟩⟩, rfl⟩

/-- The simple lineages of a declared interface lead to exactly what it reaches. -/
theorem reaches_iff_exists_lineage {c : Catalog} {i j : Interface}
    (hi : c.find? i.name = some i) : c.Reaches i j ↔ ∃ l ∈ c.lineages i, l.last = j := by
  constructor
  · exact exists_lineage_of_reaches hi
  · intro hl
    obtain ⟨l, hl, rfl⟩ := hl
    obtain ⟨rfl, hin, -⟩ := mem_lineages.mp hl
    exact reaches_last hin

end Catalog

/-! ### A tangled catalog -/

/-- A method with a route that has no placeholders. -/
def statusMethod (isAsync : Bool) : Method where
  name := "status"
  isAsync := isAsync
  params := []
  routes := [⟨.get, "/status", true⟩]
  headers := []
  queries := []
  timeouts := .unset

/-- An interface with one such method, and a header that tells it apart. -/
def layer (name : String) (parents : List String) (isAsync : Bool) : Interface where
  name := name
  isClient := true
  headers := [⟨"Layer", name⟩]
  timeouts := .unset
  parents := parents
  methods := [statusMethod isAsync]

/-- The root of `tangledCatalog`. It lists one parent twice, and one that is not declared. -/
def tangledRoot : Interface :=
  layer "Api" ["Left", "Missing", "Right", "Left"] true

/-- A catalog with two ways from its root to an interface that extends itself and one of those
before it. The method of that interface is not asynchronous. -/
def tangledCatalog : Catalog :=
  .ofList [tangledRoot, layer "Left" ["Base"] true, layer "Right" ["Base"] true,
    layer "Base" ["Base", "Left"] false]

example : (tangledCatalog.lineages tangledRoot).map Lineage.names =
    [["Api"], ["Api", "Left"], ["Api", "Left", "Base"], ["Api", "Right"], ["Api", "Right", "Base"],
      ["Api", "Right", "Base", "Left"], ["Api", "Left"], ["Api", "Left", "Base"]] := by
  cbv

end ClientTraits
