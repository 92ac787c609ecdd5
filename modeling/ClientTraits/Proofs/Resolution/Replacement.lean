import ClientTraits.Proofs.Resolution.Images

/-!
# One method in the place of another

Whether a method has a defect, and what its endpoints say, is its own affair. To say so, two
catalogs are compared that have the same declarations but for one entry in one list of methods
(`Catalog.DiffersInMethod`). Their reports of any root agree on all other signatures, and on the
errors of the graph (`resolve_agrees_on_others`).

## Proof shape

An interface has the same endpoints and failures of other signatures before and after the change
(`Interface.Replaces.filter_endpoints`, `filter_failures`). As the second catalog is an image of the
first (`DiffersInMethod.exists_isImage`), a walk comes to the same interfaces in the same order, so
that this holds of whole reports. Failures are kept once each; leaving some of them out commutes
with that (`filter_foldl_appendNew`).
-/

namespace ClientTraits

/-! ### Interfaces -/

/-- The signature belongs to neither method of the interface of this name. -/
def Signature.isOther (owner : String) (old new : Method) (s : Signature) : Bool :=
  s != old.signature owner && s != new.signature owner

/-- What one item contributes does not matter if it is left out behind. -/
theorem filter_filterMap_append_cons {α β : Type} {f : α → Option β} {p : β → Bool} {a : α}
    (h : ∀ b, f a = some b → p b = false) (before after : List α) :
    ((before ++ a :: after).filterMap f).filter p = ((before ++ after).filterMap f).filter p := by
  have hcons : ((a :: after).filterMap f).filter p = (after.filterMap f).filter p := by
    cases ha : f a with
    | none => rw [List.filterMap_cons_none ha]
    | some b =>
        rw [List.filterMap_cons_some ha, List.filter_cons_of_neg]
        rw [h b ha]
        exact Bool.false_ne_true
  rw [List.filterMap_append, List.filter_append, hcons, List.filterMap_append, List.filter_append]

namespace Interface

/-- The declarations are the same but for one entry in the list of methods. -/
def Replaces (old new : Method) (i i' : Interface) : Prop :=
  ∃ before after, i.methods = before ++ old :: after ∧
    i' = { i with methods := before ++ new :: after }

/-- Any interface with `i'` in the place of `i`. -/
def exchange (i i' j : Interface) : Interface :=
  if j = i then i' else j

theorem exchange_self (i i' : Interface) : i.exchange i' i = i' :=
  if_pos rfl

theorem exchange_of_ne {i j : Interface} (i' : Interface) (h : j ≠ i) : i.exchange i' j = j :=
  if_neg h

namespace Replaces

variable {old new : Method} {i i' : Interface} (h : Replaces old new i i')
include h

theorem name_eq : i'.name = i.name := by
  obtain ⟨before, after, -, rfl⟩ := h
  rfl

theorem parents_eq : i'.parents = i.parents := by
  obtain ⟨before, after, -, rfl⟩ := h
  rfl

theorem shared_eq : i'.shared = i.shared := by
  obtain ⟨before, after, -, rfl⟩ := h
  rfl

/-- Exchanging the two declarations changes that one only. -/
theorem exchange_cases (j : Interface) :
    i.exchange i' j = j ∨ j.name = i.name ∧ j.Replaces old new (i.exchange i' j) := by
  by_cases hj : j = i
  · subst hj
    rw [exchange_self]
    exact Or.inr ⟨rfl, h⟩
  · exact Or.inl (exchange_of_ne i' hj)

/-- What is read off the methods one by one is the same for other signatures. -/
theorem filter_filterMap {β : Type} {f : Method → Option β} (signature : β → Signature)
    (hf : ∀ m b, f m = some b → signature b = m.signature i.name) :
    ((i'.methods.filterMap f).filter fun b => (signature b).isOther i.name old new) =
      (i.methods.filterMap f).filter fun b => (signature b).isOther i.name old new := by
  have hold : ∀ b, f old = some b → (signature b).isOther i.name old new = false := by
    intro b hb
    simp [Signature.isOther, hf old b hb]
  have hnew : ∀ b, f new = some b → (signature b).isOther i.name old new = false := by
    intro b hb
    simp [Signature.isOther, hf new b hb]
  obtain ⟨before, after, hmethods, rfl⟩ := h
  rw [hmethods, filter_filterMap_append_cons hold, filter_filterMap_append_cons hnew]

theorem filter_endpoints (settings : Fragment) :
    ((i'.endpoints settings).filter fun e => e.signature.isOther i.name old new) =
      (i.endpoints settings).filter fun e => e.signature.isOther i.name old new := by
  rw [endpoints, endpoints, h.name_eq]
  refine h.filter_filterMap Endpoint.signature fun m e he => ?_
  split at he
  · cases he
    rfl
  · cases he

theorem filter_failures :
    (i'.failures.filter fun f => f.signature.isOther i.name old new) =
      i.failures.filter fun f => f.signature.isOther i.name old new := by
  rw [failures, failures, h.name_eq]
  refine h.filter_filterMap MethodFailure.signature fun m f hf => ?_
  split at hf
  · cases hf
  · cases hf
    rfl

end Replaces

end Interface

namespace Catalog

variable {c c' : Catalog}

/-! ### Parts of reports -/

namespace IsImage

variable {f : Interface → Interface} (h : c.IsImage c' f)
include h

/-- If each interface keeps its settings and some of its endpoints, every report keeps these. -/
theorem filter_endpoints (hshared : ∀ i, (f i).shared = i.shared) {p : Endpoint → Bool}
    (hp : ∀ i settings, ((f i).endpoints settings).filter p = (i.endpoints settings).filter p)
    (root : String) :
    (c'.resolve root).value.endpoints.filter p = (c.resolve root).value.endpoints.filter p := by
  have hsettings : ∀ interfaces : List Interface,
      sharedSettings (interfaces.map f) = sharedSettings interfaces := by
    intro interfaces
    rw [sharedSettings_eq_foldl, sharedSettings_eq_foldl, List.foldl_map]
    simp only [hshared]
  cases hroot : c.find? root with
  | none => rw [resolve_of_undeclared hroot, resolve_of_undeclared (h.find?_eq_none hroot)]
  | some i =>
      rw [value_endpoints_resolve hroot, value_endpoints_resolve (h.find?_eq_some hroot),
        h.lineages, List.flatMap_map, List.filter_flatMap, List.filter_flatMap]
      refine List.flatMap_congr fun l _ => ?_
      rw [Lineage.endpoints, Lineage.endpoints, Lineage.last_map, Lineage.interfaces_map,
        hsettings, hp]

/-- If each interface keeps some of its failures, every report keeps these. -/
theorem filter_failures {p : MethodFailure → Bool}
    (hp : ∀ i, (f i).failures.filter p = i.failures.filter p) (root : String) :
    (c'.resolve root).value.failures.filter p = (c.resolve root).value.failures.filter p := by
  cases hroot : c.find? root with
  | none => rw [resolve_of_undeclared hroot, resolve_of_undeclared (h.find?_eq_none hroot)]
  | some i =>
      rw [value_failures_resolve hroot, value_failures_resolve (h.find?_eq_some hroot),
        h.lineages, List.flatMap_map, filter_foldl_appendNew, filter_foldl_appendNew,
        List.filter_flatMap, List.filter_flatMap]
      simp only [Lineage.last_map, hp]

end IsImage

/-! ### Catalogs that differ in a method -/

/-- The catalogs have the same declarations but for one entry in the list of methods of one
interface. -/
def DiffersInMethod (c c' : Catalog) (owner : String) (old new : Method) : Prop :=
  ∃ front i i' back, i.name = owner ∧ i.Replaces old new i' ∧
    c.interfaces = front ++ i :: back ∧ c'.interfaces = front ++ i' :: back

/-- What is found in a list that has an interface at some place. -/
theorem find?_append_cons (front back : List Interface) (i : Interface) (name : String) :
    find? ⟨front ++ i :: back⟩ name =
      (find? ⟨front⟩ name).or (if i.name = name then some i else find? ⟨back⟩ name) := by
  rw [find?, List.find?_append, List.find?_cons]
  by_cases h : i.name = name
  · rw [if_pos h, beq_iff_eq.mpr h]
    rfl
  · rw [if_neg h, beq_eq_false_iff_ne.mpr h]
    rfl

/-- If nobody in front has its name, what is found is changed in that one interface only. -/
theorem find?_exchange {front : List Interface} {i i' : Interface} (hname : i'.name = i.name)
    (hfront : find? ⟨front⟩ i.name = none) (back : List Interface) (name : String) :
    find? ⟨front ++ i' :: back⟩ name =
      (find? ⟨front ++ i :: back⟩ name).map (Interface.exchange i i') := by
  rw [find?_append_cons, find?_append_cons, hname]
  by_cases hi : i.name = name
  · rw [if_pos hi, if_pos hi, ← hi, hfront, Option.none_or, Option.none_or, Option.map_some,
      Interface.exchange_self]
  · rw [if_neg hi, if_neg hi]
    -- What is found under another name is another interface.
    cases hj : (find? ⟨front⟩ name).or (find? ⟨back⟩ name) with
    | none => rfl
    | some j =>
        have hjname : j.name = name := by
          rcases Option.or_eq_some_iff.mp hj with hj | ⟨-, hj⟩
          · exact name_of_find? hj
          · exact name_of_find? hj
        have hne : j ≠ i := fun heq => hi (by rw [← heq, hjname])
        rw [Option.map_some, Interface.exchange_of_ne i' hne]

/-- An interface behind another one of its name is not found. -/
theorem find?_append_cons_eq {front : List Interface} {i i' j : Interface}
    (hname : i'.name = i.name) (hfront : find? ⟨front⟩ i.name = some j) (back : List Interface)
    (name : String) : find? ⟨front ++ i' :: back⟩ name = find? ⟨front ++ i :: back⟩ name := by
  rw [find?_append_cons, find?_append_cons, hname]
  by_cases hi : i.name = name
  · rw [← hi, hfront, Option.some_or, Option.some_or]
  · rw [if_neg hi, if_neg hi]

/-- Nothing but the one interface is changed, and that one only if it is found at all. -/
theorem DiffersInMethod.exists_isImage {owner : String} {old new : Method}
    (h : c.DiffersInMethod c' owner old new) :
    ∃ f, c.IsImage c' f ∧ ∀ i, f i = i ∨ i.name = owner ∧ i.Replaces old new (f i) := by
  obtain ⟨front, i, i', back, rfl, hreplaces, hinterfaces, hinterfaces'⟩ := h
  obtain rfl : c = ⟨front ++ i :: back⟩ := congrArg Catalog.mk hinterfaces
  obtain rfl : c' = ⟨front ++ i' :: back⟩ := congrArg Catalog.mk hinterfaces'
  cases hfront : find? ⟨front⟩ i.name with
  | some j =>
      have hfind := find?_append_cons_eq hreplaces.name_eq hfront back
      refine ⟨id, ⟨fun name => ?_, fun _ => rfl, fun _ => rfl⟩, fun _ => Or.inl rfl⟩
      rw [Option.map_id_apply, hfind]
  | none =>
      have hcases := hreplaces.exchange_cases
      refine ⟨i.exchange i', ⟨find?_exchange hreplaces.name_eq hfront back, fun j => ?_,
        fun j => ?_⟩, hcases⟩
      · rcases hcases j with hj | ⟨-, hj⟩
        · rw [hj]
        · exact hj.name_eq
      · rcases hcases j with hj | ⟨-, hj⟩
        · rw [hj]
        · exact hj.parents_eq

/-- **A method concerns no other.** If one method of one interface is replaced, reports of a root
have the same endpoints and the same failures of all signatures but those of the two methods, in the
same order, and the same graph errors. -/
theorem resolve_agrees_on_others {owner : String} {old new : Method}
    (h : c.DiffersInMethod c' owner old new) (root : String) :
    let report := (c.resolve root).value
    let report' := (c'.resolve root).value
    (report'.endpoints.filter fun e => e.signature.isOther owner old new) =
        (report.endpoints.filter fun e => e.signature.isOther owner old new) ∧
      (report'.failures.filter fun f => f.signature.isOther owner old new) =
        (report.failures.filter fun f => f.signature.isOther owner old new) ∧
      report'.graphErrors = report.graphErrors := by
  obtain ⟨f, himage, hf⟩ := h.exists_isImage
  refine ⟨?_, ?_, himage.value_graphErrors root⟩
  · refine himage.filter_endpoints (fun i => ?_) (fun i settings => ?_) root
    · rcases hf i with hi | ⟨-, hi⟩
      · rw [hi]
      · exact hi.shared_eq
    · rcases hf i with hi | ⟨rfl, hi⟩
      · rw [hi]
      · exact hi.filter_endpoints settings
  · refine himage.filter_failures (fun i => ?_) root
    rcases hf i with hi | ⟨rfl, hi⟩
    · rw [hi]
    · exact hi.filter_failures

/-- A method of this name, with a defect or without. -/
def namedMethod (name : String) (isAsync : Bool) : Method :=
  { statusMethod isAsync with name := name }

/-- `tangledCatalog` with one more method, in an interface that several lineages lead to. -/
def crowdedCatalog (m : Method) : Catalog :=
  tangledCatalog.insert { layer "Left" ["Base"] true with methods := [m, statusMethod true] }

/-- A method with a defect takes the place of a good one. The endpoints of the other method of that
interface, which are recorded on three lineages, are still there. -/
theorem resolve_agrees_on_others_crowdedCatalog :
    let good := namedMethod "open" true
    let bad := namedMethod "close" false
    let report := ((crowdedCatalog good).resolve "Api").value
    let report' := ((crowdedCatalog bad).resolve "Api").value
    (crowdedCatalog good).DiffersInMethod (crowdedCatalog bad) "Left" good bad ∧
      (report.endpoints.length = 8 ∧ report'.endpoints.length = 5) ∧
      (report.failures.length = 1 ∧ report'.failures.length = 2) ∧
      (report'.endpoints.filter fun e => e.signature.isOther "Left" good bad) =
        (report.endpoints.filter fun e => e.signature.isOther "Left" good bad) ∧
      (report'.failures.filter fun f => f.signature.isOther "Left" good bad) =
        (report.failures.filter fun f => f.signature.isOther "Left" good bad) ∧
      report'.graphErrors = report.graphErrors := by
  intro good bad report report'
  have hdiffers : (crowdedCatalog good).DiffersInMethod (crowdedCatalog bad) "Left" good bad := by
    refine ⟨[tangledRoot], { layer "Left" ["Base"] true with methods := [good, statusMethod true] },
      _, [layer "Right" ["Base"] true, layer "Base" ["Base", "Left"] false], rfl,
      ⟨[], [statusMethod true], rfl, rfl⟩, ?_, ?_⟩
    · decide +kernel
    · decide +kernel
  exact ⟨hdiffers, by decide +kernel, by decide +kernel, resolve_agrees_on_others hdiffers "Api"⟩

end Catalog

end ClientTraits
