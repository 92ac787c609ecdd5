import ClientTraits.Proofs.Resolution.Collect
import ClientTraits.Proofs.Resolution.Graph

/-!
# What there is to tell while a graph is made

The events of the search for the interfaces below a root, read off the declarations. A method that
is asynchronous and has several routes has a warning for that (`Method.routeNotices`); one that
comes to its settings and marks several parameters as payload has another one
(`Method.payloadNotices`). An interface has the warnings of its methods, then a note for each parent
that is not declared (`Catalog.notices`). A search that ends tells the notices of each interface
that it has met, once each and in that order (`Searches.events_eq`).
-/

namespace ClientTraits

/-! ### Methods -/

namespace Method

/-- The names of the parameters that are marked as payload. -/
def payloadNames (m : Method) : List String :=
  (m.params.filter fun p => p.payload.isSome).map Param.name

/-- The warning that all routes but one are ignored. A method without routes has none. -/
def routeNotices (m : Method) : List Event :=
  match leastRoute m.routes with
  | some route =>
    if m.isAsync ∧ 1 < m.routes.length then
      [.severalRoutes m.name route.verb (m.routes.length - 1)]
    else []
  | none => []

/-- The warning that all parameters of some names but the first are ignored. -/
def extraNotices (m : Method) : List String → List Event
  | first :: second :: more => [.severalPayloads m.name first (second :: more).length]
  | _ => []

/-- The warning that all parameters marked as payload but the first are ignored. A method with a
defect has none. -/
def payloadNotices (m : Method) : List Event :=
  match m.call.value with
  | .ok _ => m.extraNotices m.payloadNames
  | .error _ => []

/-- The warnings about a method. -/
def notices (m : Method) : List Event :=
  m.routeNotices ++ m.payloadNotices

theorem events_chosenRoute {m : Method} (hasync : m.isAsync = true) :
    m.chosenRoute.events = m.routeNotices := by
  rw [chosenRoute, routeNotices]
  cases leastRoute m.routes with
  | none => rfl
  | some route =>
      simp only [hasync, true_and]
      split <;> rfl

theorem map_payloadMarks (m : Method) : m.payloadMarks.map (·.1.name) = m.payloadNames := by
  -- An argument has the name of its parameter.
  have hname : ∀ x ∈ m.arguments, (x.1.payload.map fun mark => (x.2, mark)).map (·.1.name) =
      x.1.payload.map fun _ => x.1.name := by
    intro x hx
    rw [Option.map_map, (mem_arguments.mp hx).2]
    rfl
  have hparams : m.arguments.map Prod.fst = m.params := by
    rw [arguments, List.map_map]
    exact List.zipIdx_map_fst 0 m.params
  rw [payloadMarks, List.map_filterMap, List.filterMap_congr hname, payloadNames]
  conv_rhs => rw [← hparams, List.filter_map, List.map_map]
  rw [← List.filterMap_eq_map, List.filterMap_filter]
  refine List.filterMap_congr fun x _ => ?_
  cases h : x.1.payload <;> simp [h]

theorem events_chosenPayload (m : Method) :
    m.chosenPayload.events = m.extraNotices m.payloadNames := by
  rw [chosenPayload, ← map_payloadMarks]
  cases m.payloadMarks with
  | nil => rfl
  | cons first more =>
      cases more with
      | nil => rfl
      | cons second more =>
          rw [List.map_cons, List.map_cons, extraNotices, List.length_cons, List.length_map]
          rfl

/-- The events on the way to the settings of a method, or to its defect. -/
theorem events_call (m : Method) : m.call.events = m.notices := by
  rw [notices, payloadNotices, call]
  by_cases hasync : m.isAsync = true
  · rw [if_pos hasync, Logged.events_bind, Logged.value_bind, value_chosenRoute,
      events_chosenRoute hasync]
    cases hroute : leastRoute m.routes with
    | none => rfl
    | some route =>
        dsimp only
        cases hurl : Template.compile m.argument? route.template with
        | error unbound => rfl
        | ok url =>
            dsimp only
            rw [Logged.events_bind, Logged.events_pure, List.append_nil, events_chosenPayload]
            rfl
  · rw [if_neg hasync, routeNotices]
    cases leastRoute m.routes with
    | none => rfl
    | some route =>
        dsimp only
        rw [if_neg fun h => hasync h.1]
        rfl

/-- The warnings are of two kinds. -/
theorem forall_mem_notices {P : Event → Prop} (m : Method)
    (hroutes : ∀ chosen ignored, P (.severalRoutes m.name chosen ignored))
    (hpayloads : ∀ payload ignored, P (.severalPayloads m.name payload ignored)) :
    ∀ e ∈ m.notices, P e := by
  refine List.forall_mem_append.mpr ⟨?_, ?_⟩
  · rw [routeNotices]
    split
    · split
      · exact List.forall_mem_singleton.mpr (hroutes _ _)
      · exact fun _ h => absurd h List.not_mem_nil
    · exact fun _ h => absurd h List.not_mem_nil
  · rw [payloadNotices]
    split
    · rw [extraNotices.eq_def]
      split
      · exact List.forall_mem_singleton.mpr (hpayloads _ _)
      · exact fun _ h => absurd h List.not_mem_nil
    · exact fun _ h => absurd h List.not_mem_nil

end Method

/-! ### Interfaces -/

theorem Logged.events_mapM {α β : Type} (f : α → Logged β) (items : List α) :
    (items.mapM f).events = items.flatMap fun a => (f a).events := by
  induction items with
  | nil => rfl
  | cons a rest ih =>
      rw [List.mapM_cons, Logged.events_bind, Logged.events_bind, Logged.events_pure,
        List.append_nil, ih, List.flatMap_cons]

theorem Interface.events_collectMethods (i : Interface) :
    i.collectMethods.events = i.methods.flatMap Method.notices := by
  rw [collectMethods, Logged.events_mapM]
  refine List.flatMap_congr fun m _ => ?_
  rw [collectMethod, Logged.events_bind, Logged.events_pure, List.append_nil, Method.events_call]

namespace Catalog

/-- The notes that parents of an interface are not declared. -/
def undeclaredNotices (c : Catalog) (i : Interface) : List Event :=
  (i.parents.filter fun parent => (c.find? parent).isNone).map (.undeclaredParent i.name)

/-- What there is to tell about an interface: the warnings about its methods, then the notes about
its parents. -/
def notices (c : Catalog) (i : Interface) : List Event :=
  i.methods.flatMap Method.notices ++ c.undeclaredNotices i

variable {c : Catalog}

/-- Whether a parent was met does not matter: what was met is declared. -/
theorem events_linkParents {met : List Interface} (h : c.IsInventory met) (child : String)
    (parents : List String) :
    (c.linkParents child met parents).events =
      (parents.filter fun parent => (c.find? parent).isNone).map (.undeclaredParent child) := by
  induction parents generalizing met with
  | nil => rfl
  | cons parent rest ih =>
      rw [linkParents]
      split
      · next p hp =>
          obtain ⟨i, hi, hname⟩ := exists_of_positionIn hp
          have hdeclared : c.find? parent = some i := by
            rw [← hname]
            exact h.declared i (List.mem_of_getElem? hi)
          rw [Logged.events_bind, ih h, List.filter_cons_of_neg (by simp [hdeclared])]
          exact List.append_nil _
      · next hnew =>
          split
          · next i hi =>
              rw [Logged.events_bind, ih (h.append hi hnew),
                List.filter_cons_of_neg (by simp [hi])]
              exact List.append_nil _
          · next hnone =>
              rw [Logged.events_bind, ih h, List.filter_cons_of_pos (by simp [hnone])]
              rfl

/-! ### Searches -/

/-- A search that ends tells the notices of the interfaces that had no node in the beginning. -/
theorem Searches.events_eq {s t : Search} {events : List Event} (h : c.Searches s events t)
    (hbuilding : c.Building s.met s.nodes) (hend : c.round? t = none) :
    events = (t.met.drop s.nodes.length).flatMap c.notices := by
  induction h with
  | refl s => rw [List.drop_eq_nil_of_le (round?_eq_none_iff.mp hend)]; rfl
  | @round s t x events hround hrest ih =>
      obtain ⟨i, hi, hvalue, hevents⟩ := round?_eq_some hround
      have hnext := hbuilding.round hround
      -- The interface of this round keeps its position until the end.
      have hgrows : s.met <+: t.met :=
        ((Searches.round hround hrest).building hbuilding).1
      obtain ⟨more, hmore⟩ := hgrows
      have hlast : t.met[s.nodes.length]? = some i := by
        rw [← hmore, List.getElem?_append_left (List.getElem?_eq_some_iff.mp hi).1, hi]
      obtain ⟨hlt, hget⟩ := List.getElem?_eq_some_iff.mp hlast
      have hlength : x.value.nodes.length = s.nodes.length + 1 := by
        rw [hvalue]
        exact List.length_append
      rw [ih hnext hend, hlength, List.drop_eq_getElem_cons hlt, hget, List.flatMap_cons, hevents,
        Interface.events_collectMethods, events_linkParents hbuilding.inventory]
      rfl

end Catalog

end ClientTraits
