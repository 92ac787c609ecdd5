import ClientTraits.Proofs.Annotation.Declared
import ClientTraits.Proofs.Fragment.Distinct
import ClientTraits.Proofs.Fragment.Merge
import ClientTraits.Proofs.Resolution.Collect
import ClientTraits.Proofs.Resolution.Report

/-!
# References of endpoints

An endpoint refers to parameters in four places: in its URL, its payload, its query items and its
attributes. All these references go to parameters of one method with the endpoint's signature
(`arguments_resolve`), and the placeholders of the URL go to those that answer them.

## Proof shape

References are made when the settings of a method are collected (`Method.Collects.hasArgument`).
What an interface adds has no references (`not_isCall_sharedSettings`), so that the settings of a
method keep its own through merging and normal form (`arguments_ofCall_apply`).
-/

namespace ClientTraits

/-! ### The references in a request -/

/-- The reference in a part of a URL. -/
def Template.Part.argument? : Template.Part → Option Argument
  | fixed _ => none
  | bound _ _ argument => some argument

/-- The reference in a query item. -/
def QueryItem.argument? : QueryItem → Option Argument
  | fixed _ _ => none
  | bound _ argument => some argument

/-- All references of an endpoint. -/
def Endpoint.arguments (e : Endpoint) : List Argument :=
  e.url.filterMap Template.Part.argument? ++ e.payload.toList.map Payload.argument ++
    e.query.filterMap QueryItem.argument? ++ e.attributes.map ContextAttribute.argument

/-- Where a reference stands. -/
theorem Endpoint.mem_arguments {e : Endpoint} {a : Argument} :
    a ∈ e.arguments ↔ (∃ name written, .bound name written a ∈ e.url) ∨
      (∃ p, e.payload = some p ∧ p.argument = a) ∨ (∃ name, .bound name a ∈ e.query) ∨
      ∃ x ∈ e.attributes, x.argument = a := by
  have hurl : a ∈ e.url.filterMap Template.Part.argument? ↔
      ∃ name written, .bound name written a ∈ e.url := by
    rw [List.mem_filterMap]
    constructor
    · intro h
      obtain ⟨part, hpart, ha⟩ := h
      cases part with
      | fixed text => cases ha
      | bound name written b => cases ha; exact ⟨name, written, hpart⟩
    · intro h
      obtain ⟨name, written, hpart⟩ := h
      exact ⟨_, hpart, rfl⟩
  have hquery : a ∈ e.query.filterMap QueryItem.argument? ↔ ∃ name, .bound name a ∈ e.query := by
    rw [List.mem_filterMap]
    constructor
    · intro h
      obtain ⟨item, hitem, ha⟩ := h
      cases item with
      | fixed name value => cases ha
      | bound name b => cases ha; exact ⟨name, hitem⟩
    · intro h
      obtain ⟨name, hitem⟩ := h
      exact ⟨_, hitem, rfl⟩
  simp only [arguments, List.mem_append, hurl, hquery, List.mem_map, Option.mem_toList,
    or_assoc]

/-! ### References of a method -/

namespace Method.Collects

variable {m : Method} {route : Route} {c : Call}

/-- A placeholder goes to the argument that answers it. -/
theorem answers (h : m.Collects route c) {name written : String} {a : Argument}
    (ha : .bound name written a ∈ c.url) : name = written ∧ m.Answers name a := by
  obtain ⟨hname, hanswer⟩ := Template.of_mem_compile h.url ha
  exact ⟨hname, argument?_eq_some_iff.mp hanswer⟩

/-- All references go to arguments, apart from those that the method's query items have. -/
theorem hasArgument (h : m.Collects route c) (signature : Signature) {a : Argument}
    (ha : a ∈ (Endpoint.ofCall signature c).arguments) :
    m.HasArgument a ∨ ∃ name, .bound name a ∈ m.queries := by
  rcases Endpoint.mem_arguments.mp ha with
    ⟨name, written, ha⟩ | ⟨p, hp, rfl⟩ | ⟨name, ha⟩ | ⟨x, hx, rfl⟩
  · exact Or.inl (h.answers ha).2.hasArgument
  · exact Or.inl (hasArgument_of_chosenPayload (h.payload ▸ hp))
  · change _ ∈ c.query at ha
    rw [h.query] at ha
    exact (hasArgument_of_mem_queryItems ha).symm.imp_right fun hq => ⟨name, hq⟩
  · have hx' : x ∈ c.attributes := mem_of_mem_distinctBy hx
    rw [h.attributes] at hx'
    exact Or.inl (hasArgument_of_mem_contextAttributes hx')

end Method.Collects

/-! ### References of an endpoint -/

/-- What interfaces add is no request. -/
theorem not_isCall_sharedSettings (interfaces : List Interface) :
    (sharedSettings interfaces).isCall = false := by
  rw [sharedSettings_eq_foldl]
  refine List.foldlRecOn (motive := fun settings : Fragment => settings.isCall = false) interfaces
    _ rfl fun settings hsettings i _ => ?_
  cases settings with
  | empty => rfl
  | shared s => rfl
  | call c => cases hsettings

/-- Under settings without a request, a method keeps its references. -/
theorem arguments_ofCall_apply {settings : Fragment} (h : settings.isCall = false)
    (signature : Signature) (c : Call) {a : Argument}
    (ha : a ∈ (Endpoint.ofCall signature (settings.apply c)).arguments) :
    a ∈ (Endpoint.ofCall signature c).arguments := by
  obtain ⟨-, hquery, hattributes⟩ := Fragment.of_not_isCall h
  rw [Endpoint.mem_arguments] at ha ⊢
  refine ha.imp_right (Or.imp_right (Or.imp ?_ ?_))
  · intro ha
    obtain ⟨name, ha⟩ := ha
    change _ ∈ settings.query ++ c.query at ha
    rw [hquery] at ha
    exact ⟨name, ha⟩
  · intro ha
    obtain ⟨x, hx, rfl⟩ := ha
    change x ∈ distinctAttributes (distinctAttributes (settings.attributes ++ c.attributes)) at hx
    rw [hattributes, distinctAttributes, distinctAttributes, distinctBy_distinctBy] at hx
    exact ⟨x, hx, rfl⟩

namespace Catalog

variable {c : Catalog}

/-- What a declared interface reaches is declared. -/
theorem find?_name_of_reaches {i j : Interface} (hi : c.find? i.name = some i)
    (h : c.Reaches i j) : c.find? j.name = some j := by
  rcases Relation.ReflTransGen.cases_tail h with rfl | ⟨k, -, hk⟩
  · exact hi
  · exact find?_name_of_extends hk

/-- An endpoint is that of a method without a defect, under the settings of the interfaces on a
lineage to the one that declares it. -/
theorem exists_call_of_mem_endpoints_resolve {root : String} {e : Endpoint}
    (he : e ∈ (c.resolve root).value.endpoints) :
    ∃ i, c.find? root = some i ∧ ∃ l ∈ c.lineages i, c.find? l.last.name = some l.last ∧
      ∃ m ∈ l.last.methods, ∃ call, m.call.value = .ok call ∧
        e = .ofCall (m.signature l.last.name) ((sharedSettings l.interfaces).apply call) := by
  cases hroot : c.find? root with
  | none =>
      -- The report of an undeclared root has no endpoints.
      rw [resolve_of_undeclared hroot] at he
      exact absurd he List.not_mem_nil
  | some i =>
      rw [value_endpoints_resolve hroot] at he
      obtain ⟨l, hl, he⟩ := List.mem_flatMap.mp he
      obtain ⟨m, hm, call, hcall, rfl⟩ := mem_endpoints.mp he
      have hi : c.find? i.name = some i := by rw [name_of_find? hroot, hroot]
      have hreach := (reaches_iff_exists_lineage hi).mpr ⟨l, hl, rfl⟩
      exact ⟨i, rfl, l, hl, find?_name_of_reaches hi hreach, m, hm, call, hcall, rfl⟩

/-- **Where an endpoint comes from.** It is that of a method without a defect, under the settings
of the interfaces on a lineage to the one that declares it. -/
theorem exists_of_mem_endpoints_resolve {root : String} {e : Endpoint}
    (he : e ∈ (c.resolve root).value.endpoints) :
    ∃ i, c.find? root = some i ∧ ∃ l ∈ c.lineages i, c.find? l.last.name = some l.last ∧
      ∃ m ∈ l.last.methods, ∃ route call, m.Collects route call ∧
        e = .ofCall (m.signature l.last.name) ((sharedSettings l.interfaces).apply call) := by
  obtain ⟨i, hi, l, hl, hlast, m, hm, call, hcall, rfl⟩ := exists_call_of_mem_endpoints_resolve he
  obtain ⟨route, hcollects⟩ := Method.exists_collects hcall
  exact ⟨i, hi, l, hl, hlast, m, hm, route, call, hcollects, rfl⟩

/-- **References resolve.** If the query items that methods declare are fixed, as they are where
traits were read, every endpoint belongs to a method with its signature that its owner declares:
each reference of the endpoint goes to a parameter of that method, and each placeholder to the one
that answers it. -/
theorem arguments_resolve (c : Catalog)
    (hfixed : ∀ i ∈ c.interfaces, ∀ m ∈ i.methods, ∀ q ∈ m.queries, q.IsFixed) (root : String) :
    (∀ e ∈ (c.resolve root).value.endpoints,
      ∃ i, c.find? e.signature.owner = some i ∧ ∃ m ∈ i.methods, m.signature i.name = e.signature ∧
        (∀ a ∈ e.arguments, ∃ h : a.index < m.params.length, m.params[a.index].name = a.name) ∧
        ∀ name written a, .bound name written a ∈ e.url → name = written ∧ m.Answers name a) ∧
    ∀ t i, Interface.ofTrait t = .ok i → ∀ m ∈ i.methods, ∀ q ∈ m.queries, q.IsFixed := by
  constructor
  · intro e he
    obtain ⟨-, -, l, -, hlast, m, hm, route, call, hcollects, rfl⟩ :=
      exists_of_mem_endpoints_resolve he
    refine ⟨l.last, hlast, m, hm, rfl, fun a ha => ?_, fun name written a ha => ?_⟩
    · have ha' := arguments_ofCall_apply (not_isCall_sharedSettings _) _ _ ha
      rcases hcollects.hasArgument _ ha' with h | ⟨name, hq⟩
      · exact h
      · obtain ⟨_, _, hq'⟩ := hfixed _ (mem_of_find? hlast) m hm _ hq
        cases hq'
    · exact hcollects.answers ha
  · intro t i hi m hm
    exact ((Interface.yields_ofTrait t i hi).1.methods m hm).queries

/-- A method that refers to its parameters in all four places. Its `:id` is answered by the second
parameter, although the third has that name. -/
def attachMethod : Method where
  name := "attach"
  isAsync := true
  params :=
    [{ Param.plain "file" "Bytes" with payload := some ⟨some "image/png"⟩ },
      { Param.plain "ticket" "u64" with rename := some "id" },
      { Param.plain "id" "u64" with query := some ⟨some "revision"⟩ },
      { Param.plain "trace" "String" with context := some ⟨none⟩ }]
  routes := [⟨.put, "/tickets/:id/files", true⟩]
  headers := []
  queries := [.fixed "notify" "yes"]
  timeouts := .unset

/-- A catalog in which the method is inherited. -/
def attachCatalog : Catalog :=
  .ofList [⟨"Api", true, [⟨"Content-Type", "text/plain"⟩], .unset, ["Files"], []⟩,
    ⟨"Files", false, [], .unset, [], [attachMethod]⟩]

theorem arguments_resolve_attachCatalog :
    (attachCatalog.resolve "Api").value.endpoints.map Endpoint.arguments =
        [[⟨1, "ticket"⟩, ⟨0, "file"⟩, ⟨2, "id"⟩, ⟨3, "trace"⟩]] ∧
      ∀ e ∈ (attachCatalog.resolve "Api").value.endpoints,
        ∃ i, attachCatalog.find? e.signature.owner = some i ∧
          ∃ m ∈ i.methods, m.signature i.name = e.signature ∧
          (∀ a ∈ e.arguments, ∃ h : a.index < m.params.length,
            m.params[a.index].name = a.name) ∧
          ∀ name written a, .bound name written a ∈ e.url → name = written ∧ m.Answers name a := by
  have hfixed : ∀ i ∈ attachCatalog.interfaces, ∀ m ∈ i.methods, ∀ q ∈ m.queries, q.IsFixed := by
    intro i hi m hm q hq
    rcases List.mem_pair.mp hi with rfl | rfl
    · exact absurd hm List.not_mem_nil
    · rw [List.mem_singleton.mp hm] at hq
      exact ⟨_, _, List.mem_singleton.mp hq⟩
  exact ⟨by decide +kernel, (arguments_resolve attachCatalog hfixed "Api").1⟩

end Catalog

end ClientTraits
