import ClientTraits.Proofs.Resolution.Walk
import ClientTraits.Proofs.Tool.Sources

/-!
# Traits that are declared again

When a trait is declared again, its new declaration takes the place of the old one, and the run
warns about it. So among the traits of the source files each either is a new name or has a warning
(`World.countP_events_foldlM_declareFrom`). Clients are resolved at the places that their names got
first, with what was declared last (`Catalog.place_first_content_last`).
-/

namespace ClientTraits

/-- The event tells that a trait was declared before. -/
def Event.isRedeclared : Event → Bool
  | .redeclared _ _ => true
  | _ => false

/-! ### Warnings -/

theorem Catalog.events_declare (file : Path) (c : Catalog) (i : Interface) :
    (c.declare file i).events =
      if (c.find? i.name).isSome then [.redeclared file.text i.name] else [] := by
  rw [declare, exchange_eq]
  dsimp only
  split <;> rfl

/-- A declaration has a warning, or there is one more interface. -/
theorem Catalog.countP_events_declare (file : Path) (c : Catalog) (i : Interface) :
    (c.declare file i).events.countP Event.isRedeclared + (c.insert i).size = c.size + 1 := by
  rw [events_declare, size_insert]
  by_cases h : (c.find? i.name).isSome = true
  · rw [if_pos h, if_pos h, List.countP_singleton, Event.isRedeclared, if_pos rfl, Nat.add_zero,
      Nat.add_comm]
  · rw [if_neg h, if_neg h, List.countP_nil, Nat.zero_add]

theorem Catalog.countP_events_declareAll (file : Path) (c : Catalog) (interfaces : List Interface) :
    (c.declareAll file interfaces).events.countP Event.isRedeclared +
      (interfaces.foldl insert c).size = c.size + interfaces.length := by
  -- That the file is read is not such a warning.
  show (interfaces.foldlM (declare file) c).events.countP Event.isRedeclared + _ = _
  induction interfaces generalizing c with
  | nil => rw [Nat.add_comm]; rfl
  | cons i rest ih =>
      have hfirst := c.countP_events_declare file i
      have hrest := ih (c.insert i)
      rw [List.foldlM_cons, Logged.events_bind, List.countP_append, value_declare, List.foldl_cons,
        List.length_cons]
      omega

theorem World.countP_events_foldlM_declareFrom (w : World) (files : List Path) (c : Catalog) :
    (files.foldlM w.declareFrom c).events.countP Event.isRedeclared +
        ((files.flatMap w.declarationsIn).foldl Catalog.insert c).size =
      c.size + (files.flatMap w.declarationsIn).length := by
  induction files generalizing c with
  | nil => rw [Nat.add_comm]; rfl
  | cons file rest ih =>
      have hfile := c.countP_events_declareAll file (w.declarationsIn file)
      have hrest := ih ((w.declarationsIn file).foldl Catalog.insert c)
      rw [List.foldlM_cons, Logged.events_bind, List.countP_append, declareFrom,
        Catalog.value_declareAll, List.flatMap_cons, List.foldl_append, List.length_append]
      omega

/-! ### Clients -/

namespace Catalog

/-- The names of clients, each at its first place. The last declaration decides who is a client. -/
def clientNames (declared : List Interface) : List String :=
  (ofList declared).names.filter fun name => (lastDeclared? declared name).any Interface.isClient

theorem map_name_clients_ofList (declared : List Interface) :
    (ofList declared).clients.map Interface.name = clientNames declared := by
  rw [clientNames, names, List.filter_map, clients]
  congr 1
  refine List.filter_congr fun i hi => ?_
  have hlast : lastDeclared? declared i.name = some i :=
    ((keeps_ofList declared).found i.name).symm.trans
      (find?_of_mem_interfaces (nodup_names_ofList declared) hi)
  rw [Function.comp_apply, hlast, Option.any_some]

theorem value_resolveAll (c : Catalog) :
    c.resolveAll.value = (c.clients.map Interface.name).map fun name => (c.resolve name).value := by
  rw [resolveAll, Logged.value_mapM, List.map_map]
  rfl

/-- **First place, last content.** The catalog of some declarations is the one that has each of
their names once, in the order in which the names came in first, and under each of them what was
declared last. What a declaration replaces is what its name stood for until then. So the reports are
those of the clients in this order. A run that reads source files comes to the catalog of all their
traits unless one cannot be read, and of the traits that were read all but one for each name have a
warning. -/
theorem place_first_content_last (declared : List Interface) :
    (∀ c : Catalog, c.Keeps declared ↔ c = ofList declared) ∧
      (∀ before i after, declared = before ++ i :: after →
        (ofList before).exchange i = (lastDeclared? before i.name, ofList (before ++ [i]))) ∧
      (ofList declared).resolveAll.value =
        (clientNames declared).map (fun root => ((ofList declared).resolve root).value) ∧
      (ofList declared).resolveAll.value.map Report.root = clientNames declared ∧
      ∀ (w : World) (files : List Path),
        let traits := (w.readFirst files).flatMap w.declarationsIn
        ∃ events, (Run.loadFiles files).on w =
            (match files.findSome? w.hindranceIn with
              | none => .ok (ofList traits)
              | some e => .error e, ⟨w.disk, w.log ++ events⟩) ∧
          events.countP Event.isRedeclared + (traits.map Interface.name).toFinset.card =
            traits.length := by
  refine ⟨fun c => ⟨fun h => h.unique (keeps_ofList declared), ?_⟩, ?_, ?_, ?_, ?_⟩
  · rintro rfl
    exact keeps_ofList declared
  · intro before i after _
    rw [exchange_eq, find?_ofList, ofList, ofList, List.foldl_append]
    rfl
  · rw [value_resolveAll, map_name_clients_ofList]
  · rw [value_resolveAll, map_name_clients_ofList, List.map_map]
    exact (List.map_congr_left fun root _ => root_resolve _ root).trans (List.map_id _)
  · intro w files traits
    have hload := Run.on_foldlM_loadFile (w := w) files w.log .empty
    have hcount := w.countP_events_foldlM_declareFrom (w.readFirst files) .empty
    rw [World.value_foldlM_declareFrom] at hload
    rw [← size_ofList]
    exact ⟨_, hload, hcount.trans (Nat.zero_add _)⟩

example :
    let declared := [layer "First" [] true, layer "Second" [] true, layer "First" ["Second"] false]
    (ofList declared).interfaces = [layer "First" ["Second"] false, layer "Second" [] true] := by
  decide

end Catalog

end ClientTraits
