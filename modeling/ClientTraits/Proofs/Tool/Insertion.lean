import ClientTraits.Proofs.Annotation.Declared
import ClientTraits.Proofs.Expansion.Outcome
import ClientTraits.Proofs.Tool.Sources

/-!
# Traits that no client reaches

A run reads every trait of the source files, since it may be a parent. A trait whose declaration can
be read, that is no client, and that no other trait names, makes no difference for the reports,
wherever it is put among the items of the files (`reports_of_gains`). One that cannot be read can
make a run fail that would go well without it (`reports_brokenText`).

## Proof shape

Inserting a trait into items inserts its declaration into what the items declare
(`InsertedIn.ofItems`). In a catalog that changes what is found under one name
(`Catalog.filter_interfaces_ofList`), and no client reaches that name (`Catalog.resolveAll_ofList`).
-/

namespace ClientTraits

open Rust

/-! ### Catalogs with another declaration -/

namespace Catalog

theorem filter_replaceOrAppend (i : Interface) (interfaces : List Interface) (name : String) :
    ((replaceOrAppend i interfaces).filter fun j => j.name != name) =
      if i.name = name then interfaces.filter fun j => j.name != name
      else replaceOrAppend i (interfaces.filter fun j => j.name != name) := by
  induction interfaces with
  | nil => by_cases h : i.name = name <;> simp [replaceOrAppend, h]
  | cons j rest ih =>
      by_cases hj : j.name = i.name
      · by_cases h : i.name = name <;> simp [replaceOrAppend, hj, h]
      · rw [replaceOrAppend, if_neg hj]
        by_cases hname : j.name = name
        · rw [List.filter_cons_of_neg (by simpa using hname),
            List.filter_cons_of_neg (by simpa using hname), ih]
        · rw [List.filter_cons_of_pos (by simpa using hname),
            List.filter_cons_of_pos (by simpa using hname), ih, replaceOrAppend, if_neg hj]
          split <;> rfl

theorem filter_interfaces_foldl_insert (interfaces : List Interface) (name : String) (c : Catalog) :
    ((interfaces.foldl insert c).interfaces.filter fun i => i.name != name) =
      ((interfaces.filter fun i => i.name != name).foldl insert
        ⟨c.interfaces.filter fun i => i.name != name⟩).interfaces := by
  induction interfaces generalizing c with
  | nil => rfl
  | cons i rest ih =>
      rw [List.foldl_cons, ih, insert, filter_replaceOrAppend]
      by_cases h : i.name = name
      · rw [if_pos h, List.filter_cons_of_neg (by simpa using h)]
      · rw [if_neg h, List.filter_cons_of_pos (by simpa using h), List.foldl_cons]
        rfl

/-- The interfaces of other names are those of a catalog without the one name. -/
theorem filter_interfaces_ofList (interfaces : List Interface) (name : String) :
    ((ofList interfaces).interfaces.filter fun i => i.name != name) =
      (ofList (interfaces.filter fun i => i.name != name)).interfaces :=
  filter_interfaces_foldl_insert interfaces name empty

theorem mem_of_mem_replaceOrAppend {i j : Interface} {interfaces : List Interface}
    (h : j ∈ replaceOrAppend i interfaces) : j = i ∨ j ∈ interfaces := by
  induction interfaces with
  | nil => exact Or.inl (List.mem_singleton.mp h)
  | cons first rest ih =>
      rw [replaceOrAppend] at h
      split at h
      · exact (List.mem_cons.mp h).imp_right (List.mem_cons_of_mem first)
      · rcases List.mem_cons.mp h with rfl | h
        · exact Or.inr List.mem_cons_self
        · exact (ih h).imp_right (List.mem_cons_of_mem first)

/-- A catalog has nothing that was not inserted. -/
theorem mem_of_mem_interfaces_ofList {interfaces : List Interface} {i : Interface}
    (h : i ∈ (ofList interfaces).interfaces) : i ∈ interfaces := by
  refine List.foldlRecOn (motive := fun c : Catalog => i ∈ c.interfaces → i ∈ interfaces) interfaces
    insert (fun h => absurd h List.not_mem_nil) (fun c hc j hj hi => ?_) h
  rcases mem_of_mem_replaceOrAppend hi with rfl | hi
  · exact hj
  · exact hc hi

section OneMore

variable {interfaces interfaces' : List Interface} {name : String}

/-- A client does not reach a name that nobody lists. -/
theorem ne_of_reachesName (hparents : ∀ i ∈ interfaces, name ∉ i.parents) {root other : String}
    (hroot : root ≠ name) (h : (ofList interfaces).ReachesName root other) : other ≠ name := by
  induction h with
  | refl => exact hroot
  | @tail child parent _ hparent ih =>
      rw [parentsOf] at hparent
      cases hchild : (ofList interfaces).find? child with
      | none =>
          rw [hchild] at hparent
          exact absurd hparent List.not_mem_nil
      | some i =>
          rw [hchild] at hparent
          rintro rfl
          exact hparents i (mem_of_mem_interfaces_ofList (mem_of_find? hchild)) hparent

/-- Declarations of one more name make no difference if they are no clients and nobody lists the
name. -/
theorem resolveAll_ofList (hrest : (interfaces'.filter fun i => i.name != name) = interfaces)
    (hclient : ∀ i ∈ interfaces', i.name = name → i.isClient = false)
    (hparents : ∀ i ∈ interfaces, name ∉ i.parents) :
    (ofList interfaces').resolveAll.value = (ofList interfaces).resolveAll.value := by
  have hclients : (ofList interfaces').clients = (ofList interfaces).clients := by
    rw [clients, clients, ← hrest, ← filter_interfaces_ofList, List.filter_filter]
    refine List.filter_congr fun i hi => ?_
    have hmark := hclient i (mem_of_mem_interfaces_ofList hi)
    by_cases hname : i.name = name
    · simp [hmark hname]
    · simp [hname]
  have hagree : ∀ other, other ≠ name →
      (ofList interfaces).AgreesAt (ofList interfaces') other := by
    intro other hother
    rw [AgreesAt, find?_ofList, find?_ofList, ← hrest, List.filter_filter]
    refine congrArg (fun found => Option.map Interface.unmarked (List.getLast? found)) ?_
    refine List.filter_congr fun i _ => ?_
    by_cases hname : i.name = other <;> simp [hname, hother]
  rw [resolveAll, resolveAll, hclients, Logged.value_mapM, Logged.value_mapM]
  refine List.map_congr_left fun i hi => ?_
  have hroot : i.name ≠ name := by
    have hmem := mem_of_mem_interfaces_ofList (List.mem_filter.mp hi).1
    rw [← hrest, List.mem_filter] at hmem
    simpa using hmem.2
  rw [resolve_congr fun other h => hagree other (ne_of_reachesName hparents hroot h)]

end OneMore

end Catalog

/-! ### Items with another trait -/

namespace Rust

/-- Items with a new one among them, in front of some item or at the end, in modules at any
depth. -/
inductive InsertedIn (new : Item) : List Item → List Item → Prop
  | here (items : List Item) : InsertedIn new items (new :: items)
  | later (first : Item) {rest rest' : List Item} (h : InsertedIn new rest rest') :
      InsertedIn new (first :: rest) (first :: rest')
  | inside {items items' : List Item} (rest : List Item) (h : InsertedIn new items items') :
      InsertedIn new (.module items :: rest) (.module items' :: rest)

/-- An inserted trait is inserted among the traits. -/
theorem InsertedIn.itemsTraits {t : Trait} {items items' : List Item}
    (h : InsertedIn (.definition t) items items') :
    ∃ before after, itemsTraits items = before ++ after ∧
      itemsTraits items' = before ++ t :: after := by
  induction h with
  | here items => exact ⟨[], Rust.itemsTraits items, rfl, rfl⟩
  | later first h ih =>
      obtain ⟨before, after, hold, hnew⟩ := ih
      exact ⟨first.traits ++ before, after, by rw [Rust.itemsTraits, hold, List.append_assoc],
        by rw [Rust.itemsTraits, hnew, List.append_assoc]⟩
  | @inside items items' rest h ih =>
      obtain ⟨before, after, hold, hnew⟩ := ih
      refine ⟨before, after ++ Rust.itemsTraits rest, ?_, ?_⟩
      · rw [Rust.itemsTraits, Item.traits, hold, List.append_assoc]
      · rw [Rust.itemsTraits, Item.traits, hnew, List.append_assoc, List.cons_append]

end Rust

section Except

variable {α β ε : Type} {f : α → Except ε β}

/-- One more item that is read gives one more result. -/
theorem mapM_insert {a : α} {b : β} (ha : f a = .ok b) {before after : List α} {results : List β}
    (h : (before ++ after).mapM f = .ok results) :
    ∃ first second, results = first ++ second ∧
      (before ++ a :: after).mapM f = .ok (first ++ b :: second) := by
  obtain ⟨first, second, hfirst, hsecond, rfl⟩ := mapM_append_eq_ok_iff.mp h
  refine ⟨first, second, rfl, mapM_append_eq_ok_iff.mpr ⟨first, b :: second, hfirst, ?_, rfl⟩⟩
  exact mapM_cons_eq_ok_iff.mpr ⟨b, second, ha, hsecond, rfl⟩

/-- Each result comes from an item. -/
theorem exists_of_mem_mapM_eq_ok {items : List α} {results : List β}
    (h : items.mapM f = .ok results) {b : β} (hb : b ∈ results) : ∃ a ∈ items, f a = .ok b := by
  induction items generalizing results with
  | nil =>
      cases h
      exact absurd hb List.not_mem_nil
  | cons a rest ih =>
      obtain ⟨c, more, ha, hmore, rfl⟩ := mapM_cons_eq_ok_iff.mp h
      rcases List.mem_cons.mp hb with rfl | hb
      · exact ⟨a, List.mem_cons_self, ha⟩
      · obtain ⟨a', hmem, ha'⟩ := ih hmore hb
        exact ⟨a', List.mem_cons_of_mem a hmem, ha'⟩

end Except

/-- Items with another trait that can be read declare what they did, and the trait. -/
theorem Interface.ofItems_of_insertedIn {t : Trait} {d : Interface} {items items' : List Item}
    {interfaces : List Interface} (hd : ofTrait t = .ok d)
    (hinserted : InsertedIn (.definition t) items items') (h : ofItems items = .ok interfaces) :
    ∃ before after, interfaces = before ++ after ∧ ofItems items' = .ok (before ++ d :: after) := by
  obtain ⟨first, second, hold, hnew⟩ := hinserted.itemsTraits
  rw [ofItems, hold] at h
  rw [ofItems, hnew]
  exact mapM_insert hd h

/-! ### Worlds with another trait -/

namespace World

/-- The items of a source file. -/
def items? (w : World) (file : Path) : Option (List Item) :=
  (w.text file).bind readSource?

/-- The second world has the trait among the items of some of the source files, and is like the
first one in all else that a run reads. -/
structure Gains (w : World) (inputs : List Path) (t : Trait) (w' : World) : Prop where
  place : ∀ p ∈ inputs, w'.place p = w.place p
  source : ∀ file ∈ w.sources inputs, w'.text file = w.text file ∨
    ∃ items items', w.items? file = some items ∧ w'.items? file = some items' ∧
      InsertedIn (.definition t) items items'

/-- The traits of a source file; none if it cannot be read. -/
def traitsIn (w : World) (file : Path) : List Trait :=
  itemsTraits ((w.items? file).getD [])

/-- A trait in the source files has the name or extends something of that name. -/
def Mentions (w : World) (inputs : List Path) (name : String) : Prop :=
  ∃ file ∈ w.sources inputs, ∃ u ∈ w.traitsIn file, u.name = name ∨ .named name ∈ u.bounds

instance (w : World) (inputs : List Path) (name : String) : Decidable (w.Mentions inputs name) :=
  inferInstanceAs (Decidable (∃ file ∈ w.sources inputs, ∃ u ∈ w.traitsIn file, _))

variable {w w' : World} {inputs : List Path} {t : Trait} {d : Interface}

theorem ofText_eq_ok_iff {file : Path} {interfaces : List Interface} :
    Interface.ofText file (w.text file) = .ok interfaces ↔
      ∃ items, w.items? file = some items ∧ Interface.ofItems items = .ok interfaces := by
  rw [items?]
  cases w.text file with
  | none => exact iff_of_false (fun h => nomatch h) fun ⟨_, h, _⟩ => nomatch h
  | some text =>
      rw [Interface.ofText, Option.bind_some]
      cases readSource? text with
      | none => exact iff_of_false (fun h => nomatch h) fun ⟨_, h, _⟩ => nomatch h
      | some items =>
          simp only [Option.some.injEq, exists_eq_left']
          cases Interface.ofItems items with
          | error e => exact iff_of_false (fun h => nomatch h) fun h => nomatch h
          | ok found => simp [Except.mapError]

theorem Gains.sources (h : w.Gains inputs t w') : w'.sources inputs = w.sources inputs := by
  have hat : inputs.flatMap w'.sourcesAt = inputs.flatMap w.sourcesAt := by
    refine List.flatMap_congr fun p hp => ?_
    rw [sourcesAt, sourcesAt, h.place p hp]
  rw [World.sources, World.sources, hat]

/-- What a file declares in the second world: the same, or one declaration more. -/
theorem Gains.ofText (h : w.Gains inputs t w') (hd : Interface.ofTrait t = .ok d) {file : Path}
    (hfile : file ∈ w.sources inputs) {interfaces : List Interface}
    (hread : Interface.ofText file (w.text file) = .ok interfaces) :
    ∃ interfaces', Interface.ofText file (w'.text file) = .ok interfaces' ∧
      (interfaces' = interfaces ∨
        ∃ before after, interfaces = before ++ after ∧ interfaces' = before ++ d :: after) := by
  rcases h.source file hfile with hsame | ⟨items, items', hitems, hitems', hinserted⟩
  · exact ⟨interfaces, by rw [hsame, hread], Or.inl rfl⟩
  · obtain ⟨_, hitems'', hall⟩ := ofText_eq_ok_iff.mp hread
    rw [hitems] at hitems''
    cases hitems''
    obtain ⟨before, after, rfl, hall'⟩ := Interface.ofItems_of_insertedIn hd hinserted hall
    exact ⟨_, ofText_eq_ok_iff.mpr ⟨items', hitems', hall'⟩, Or.inr ⟨before, after, rfl, rfl⟩⟩

/-- Declarations are of other names, and list other names, if no trait mentions the name. -/
theorem ne_of_mem_declarations {name : String} (hmentions : ¬ w.Mentions inputs name)
    {i : Interface} (hi : i ∈ w.declarations inputs) : i.name ≠ name ∧ name ∉ i.parents := by
  obtain ⟨file, hfile, hin⟩ := List.mem_flatMap.mp hi
  rw [declarationsIn] at hin
  split at hin
  · next interfaces hread =>
      obtain ⟨items, hitems, hall⟩ := ofText_eq_ok_iff.mp hread
      obtain ⟨u, hu, hui⟩ := exists_of_mem_mapM_eq_ok hall hin
      have hu' : u ∈ w.traitsIn file := by rwa [traitsIn, hitems]
      constructor
      · intro h
        exact hmentions ⟨file, hfile, u, hu', Or.inl ((Interface.of_ofTrait hui).1.symm.trans h)⟩
      · intro h
        exact hmentions ⟨file, hfile, u, hu', Or.inr ((Interface.mem_parents_iff hui name).mp h)⟩
  · exact absurd hin List.not_mem_nil

/-- What a file declares apart from the new name is as it was, and what is new is the
declaration. -/
theorem Gains.declarationsIn (h : w.Gains inputs t w') (hd : Interface.ofTrait t = .ok d)
    (hmentions : ¬ w.Mentions inputs d.name) {file : Path} (hfile : file ∈ w.sources inputs)
    {interfaces : List Interface}
    (hread : Interface.ofText file (w.text file) = .ok interfaces) :
    ((w'.declarationsIn file).filter fun i => i.name != d.name) = w.declarationsIn file ∧
      ∀ i ∈ w'.declarationsIn file, i = d ∨ i ∈ w.declarationsIn file := by
  obtain ⟨interfaces', hread', hnew⟩ := h.ofText hd hfile hread
  have hold : w.declarationsIn file = interfaces := by rw [World.declarationsIn, hread]
  have hothers : ∀ i ∈ interfaces, (i.name != d.name) = true := by
    intro i hi
    have hi' : i ∈ w.declarations inputs := List.mem_flatMap.mpr ⟨file, hfile, hold ▸ hi⟩
    exact bne_iff_ne.mpr (ne_of_mem_declarations hmentions hi').1
  rw [hold, World.declarationsIn, hread']
  rcases hnew with rfl | ⟨before, after, rfl, rfl⟩
  · exact ⟨List.filter_eq_self.mpr hothers, fun i hi => Or.inr hi⟩
  · rw [List.forall_mem_append] at hothers
    refine ⟨?_, fun i hi => ?_⟩
    · rw [List.filter_append, List.filter_cons_of_neg (by simp), List.filter_eq_self.mpr hothers.1,
        List.filter_eq_self.mpr hothers.2]
    · rcases List.mem_append.mp hi with hi | hi
      · exact Or.inr (List.mem_append_left after hi)
      · exact (List.mem_cons.mp hi).imp_right (List.mem_append_right before)

/-- All can still be read, and what is declared apart from the new name is as it was. -/
theorem Gains.declarations (h : w.Gains inputs t w') (hd : Interface.ofTrait t = .ok d)
    (hmentions : ¬ w.Mentions inputs d.name) (hreadable : w.Readable inputs) :
    w'.Readable inputs ∧
      ((w'.declarations inputs).filter fun i => i.name != d.name) = w.declarations inputs ∧
      ∀ i ∈ w'.declarations inputs, i.name = d.name → i = d := by
  have hfile := fun file hfile =>
    h.declarationsIn hd hmentions hfile (hreadable.read file hfile).choose_spec
  refine ⟨⟨fun p hp => ?_, fun file hmem => ?_⟩, ?_, fun i hi hname => ?_⟩
  · rw [h.place p hp]
    exact hreadable.found p hp
  · rw [h.sources] at hmem
    obtain ⟨interfaces, hread⟩ := hreadable.read file hmem
    obtain ⟨interfaces', hread', -⟩ := h.ofText hd hmem hread
    exact ⟨interfaces', hread'⟩
  · rw [World.declarations, World.declarations, h.sources, List.filter_flatMap]
    exact List.flatMap_congr fun file hmem => (hfile file hmem).1
  · obtain ⟨file, hmem, hin⟩ := List.mem_flatMap.mp hi
    rw [h.sources] at hmem
    rcases (hfile file hmem).2 i hin with rfl | hold
    · rfl
    · have hi' : i ∈ w.declarations inputs := List.mem_flatMap.mpr ⟨file, hmem, hold⟩
      exact absurd hname (ne_of_mem_declarations hmentions hi').1

end World

namespace Run

/-- **Traits that no client reaches do not matter.** If a run comes to reports, it comes to the same
reports when a trait is put anywhere among the items of the source files that is no client, that can
be read, and whose name no other trait has or extends. -/
theorem reports_of_gains {w w' : World} {inputs : List Path} {t : Trait} {d : Interface}
    {reports : List Report} (hgains : w.Gains inputs t w')
    (hclient : t.attributes.any (fun a => a.hasName "client") = false)
    (hmentions : ¬ w.Mentions inputs t.name) (hd : Interface.ofTrait t = .ok d)
    (h : ((Run.reports inputs).on w).1 = .ok reports) :
    ((Run.reports inputs).on w').1 = .ok reports := by
  obtain ⟨hname, hmark, -⟩ := Interface.of_ofTrait hd
  rw [← hname] at hmentions
  rcases reads_reports w inputs with ⟨hreadable, hreads⟩ | ⟨e, -, hreads⟩
  · obtain ⟨hreadable', hrest, hnew⟩ := hgains.declarations hd hmentions hreadable
    have hsame : w'.reports inputs = w.reports inputs := by
      refine Catalog.resolveAll_ofList hrest (fun i hi h => ?_) fun i hi => ?_
      · rw [hnew i hi h, hmark, hclient]
      · exact (World.ne_of_mem_declarations hmentions hi).2
    rcases reads_reports w' inputs with ⟨-, hreads'⟩ | ⟨e, hhinders, -⟩
    · rw [hreads'.fst_on, hsame, ← hreads.fst_on, h]
    · exact absurd hreadable' hhinders.not_readable
  · rw [hreads.fst_on] at h
    cases h

/-! ### A stray trait -/

/-- The trait of a text that holds nothing else. -/
def loneTrait? (text : String) : Option Trait :=
  match readSource? text with
  | some [.definition t] => some t
  | _ => none

theorem readSource?_of_loneTrait? {text : String} {t : Trait} (h : loneTrait? text = some t) :
    readSource? text = some [.definition t] := by
  unfold loneTrait? at h
  split at h
  · next u hread =>
      cases h
      exact hread
  · cases h

/-- A client. -/
def pingText : String :=
  "#[client] trait Api \x7b #[get(\"/ping\")] async fn ping(&self); \x7d"

/-- The client in one file, and another file with the text. -/
def strayWorld (text : String) : World :=
  .ofFolder
    (.folder [("api.rs", .file (some pingText)), ("other.rs", .file (some text))])

/-- Both files. -/
def strayInputs : List Path :=
  [⟨"api.rs"⟩, ⟨"other.rs"⟩]

theorem sources_strayWorld (text : String) :
    (strayWorld text).sources strayInputs = strayInputs := by
  have hfound : strayInputs.flatMap (strayWorld text).sourcesAt = strayInputs := by rfl
  rw [World.sources, hfound, Path.sortedUnique, List.mergeSort_of_pairwise (by decide +kernel)]
  decide +kernel

/-- The trait is put into an empty file. -/
theorem gains_strayWorld {text : String} {t : Trait} (h : loneTrait? text = some t) :
    (strayWorld "").Gains strayInputs t (strayWorld text) where
  place p hp := by
    rcases List.mem_pair.mp hp with rfl | rfl <;> rfl
  source file hfile := by
    rw [sources_strayWorld] at hfile
    rcases List.mem_pair.mp hfile with rfl | rfl
    · exact Or.inl rfl
    · have hempty : readSource? "" = some [] := by rfl
      exact Or.inr ⟨[], _, hempty, readSource?_of_loneTrait? h, .here []⟩

theorem not_mentions_strayWorld : ¬ (strayWorld "").Mentions strayInputs "Other" := by
  rw [World.Mentions, sources_strayWorld]
  decide +kernel

theorem reads_strayWorld :
    Reads (strayWorld "") (reports strayInputs) (.ok ((strayWorld "").reports strayInputs)) := by
  rcases reads_reports (strayWorld "") strayInputs with ⟨-, hreads⟩ | ⟨e, hhinders, -⟩
  · exact hreads
  · refine absurd ⟨by decide +kernel, fun file hfile => ?_⟩ hhinders.not_readable
    rw [sources_strayWorld] at hfile
    rcases List.mem_pair.mp hfile with rfl | rfl
    · exact ⟨[⟨"Api", true, [], .unset, [],
        [⟨"ping", true, [], [⟨.get, "/ping", true⟩], [], [], .unset⟩]⟩], by decide +kernel⟩
    · exact ⟨[], by decide +kernel⟩

/-- A trait that extends the client, with a setting and with a method that does not resolve. -/
def strayText : String :=
  "#[header(\"X-Stray\", \"yes\")] trait Other: Api \x7b #[get(\"/:lost\")] fn lost(&self); \x7d"

theorem reports_of_gains_strayText :
    ∃ t d, (strayWorld "").Gains strayInputs t (strayWorld strayText) ∧
      t.attributes.any (fun a => a.hasName "client") = false ∧
      ¬ (strayWorld "").Mentions strayInputs t.name ∧ Interface.ofTrait t = .ok d ∧
      ((Run.reports strayInputs).on (strayWorld strayText)).1 =
        .ok ((strayWorld "").reports strayInputs) := by
  have hread : (loneTrait? strayText).map (fun t => (t.name,
      t.attributes.any fun a => a.hasName "client", Interface.ofTrait t)) =
      some ("Other", false, .ok ⟨"Other", false, [⟨"X-Stray", "yes"⟩], .unset, ["Api"],
        [⟨"lost", false, [], [⟨.get, "/:lost", true⟩], [], [], .unset⟩]⟩) := by
    decide +kernel
  obtain ⟨t, ht, hread⟩ := Option.map_eq_some_iff.mp hread
  obtain ⟨hname, hclient, hd⟩ : t.name = _ ∧ _ = _ ∧ Interface.ofTrait t = _ := by
    simpa only [Prod.mk.injEq] using hread
  have hmentions : ¬ (strayWorld "").Mentions strayInputs t.name :=
    hname ▸ not_mentions_strayWorld
  have hgains := gains_strayWorld ht
  exact ⟨t, _, hgains, hclient, hmentions, hd,
    reports_of_gains hgains hclient hmentions hd reads_strayWorld.fst_on⟩

/-- A trait with an attribute that cannot be read. -/
def brokenText : String :=
  "#[headers(\"broken\")] trait Other \x7b\x7d"

/-- A trait that cannot be read makes the run fail, although no client reaches it. -/
theorem reports_brokenText :
    ∃ t, (strayWorld "").Gains strayInputs t (strayWorld brokenText) ∧
      t.attributes.any (fun a => a.hasName "client") = false ∧
      ¬ (strayWorld "").Mentions strayInputs t.name ∧
      ((Run.reports strayInputs).on (strayWorld "")).1 =
        .ok ((strayWorld "").reports strayInputs) ∧
      ∃ e, ((Run.reports strayInputs).on (strayWorld brokenText)).1 = .error e := by
  have hread : (loneTrait? brokenText).map (fun t => (t.name,
      t.attributes.any fun a => a.hasName "client")) = some ("Other", false) := by
    decide +kernel
  obtain ⟨t, ht, hread⟩ := Option.map_eq_some_iff.mp hread
  obtain ⟨hname, hclient⟩ := Prod.mk.inj hread
  refine ⟨t, gains_strayWorld ht, hclient, hname ▸ not_mentions_strayWorld,
    reads_strayWorld.fst_on, ?_⟩
  rcases reads_reports (strayWorld brokenText) strayInputs with ⟨hreadable, -⟩ | ⟨e, -, hreads⟩
  · have hmem : ⟨"other.rs"⟩ ∈ (strayWorld brokenText).sources strayInputs := by
      rw [sources_strayWorld]
      exact List.mem_cons_of_mem _ List.mem_cons_self
    obtain ⟨interfaces, hok⟩ := hreadable.read _ hmem
    have herror : (Interface.ofText ⟨"other.rs"⟩ ((strayWorld brokenText).text ⟨"other.rs"⟩)).isOk =
        false := by
      decide +kernel
    rw [hok] at herror
    cases herror
  · exact ⟨e, hreads.fst_on⟩

end Run

end ClientTraits
