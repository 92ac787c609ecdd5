import ClientTraits.Proofs.Wire.Writable

/-!
# Nothing is lost in the emitted JSON

Two texts leave this library: the constant beside an expanded trait, which is a list of endpoints,
and the document of a list of reports. Both are read back to the endpoints that they were made from
(`emitted_endpoints_restored`).

Positions of parameters are taken to fit into 64 bits, which they do wherever the parameters
themselves fit into memory.
-/

namespace ClientTraits

open Json (Value)
open Wire

/-- A verb that its token denotes is no custom verb that is spelled like a standard one. -/
theorem Verb.Faithful.ne_custom {v w : Verb} (h : v.Faithful) (hw : w.isStandard = true) :
    v ≠ .custom w.token := by
  rintro rfl
  cases w with
  | custom token => cases hw
  | _ => cases h

/-! ### Expanded traits -/

/-- The endpoints that a text lists. -/
def endpointsOfText? (text : String) : Option (List Endpoint) :=
  (Value.read? text).bind (listOf Endpoint.ofJson?)

theorem endpointsOfText?_compact {endpoints : List Endpoint} (h : ∀ e ∈ endpoints, e.Writable) :
    endpointsOfText? (Value.array (endpoints.map Endpoint.toJson)).compact = some endpoints := by
  have hexact : (Value.array (endpoints.map Endpoint.toJson)).IsExact :=
    isExact_list Endpoint.isExact_toJson endpoints
  rw [endpointsOfText?, Value.read?_compact hexact]
  exact Json.rearranges_id.listOf fun e he => Endpoint.ofJson?_toJson Json.rearranges_id (h e he)

/-- The endpoints of an interface by itself are those of its report. -/
theorem Interface.yields_lonelyEndpoints (i : Interface) :
    Yields i.lonelyEndpoints fun endpoints =>
      endpoints = ((Catalog.ofList [i]).resolve i.name).value.endpoints := by
  rw [lonelyEndpoints, Report.result]
  refine Yields.mapError ?_ _
  split
  · exact yields_pure rfl
  · exact yields_error _

/-- The text of an expansion lists the endpoints of the trait by itself. -/
theorem yields_expand (arguments : List Rust.Tree) (t : Rust.Trait) :
    Yields (expand arguments t) fun x => ∃ i, Interface.ofAnnotated t = .ok i ∧
      x.text = (Value.array
        (((Catalog.ofList [i]).resolve i.name).value.endpoints.map Endpoint.toJson)).compact := by
  unfold expand
  split
  · exact yields_error _
  · refine (yields_self (Interface.ofAnnotated t)).bind fun i hi => ?_
    refine (Interface.yields_lonelyEndpoints i).bind fun endpoints hendpoints => ?_
    exact yields_pure ⟨i, hi, by rw [hendpoints]⟩

/-- The inputs of each method can be numbered in 64 bits. -/
def Rust.Trait.Indexable (t : Rust.Trait) : Prop :=
  ∀ f, .method f ∈ t.members → f.inputs.length ≤ 2 ^ 64

theorem Interface.indexable_of_ofAnnotated {t : Rust.Trait} (ht : t.Indexable) {i : Interface}
    (h : Interface.ofAnnotated t = .ok i) : i.Indexable := by
  obtain ⟨j, hj, rfl⟩ := Interface.yields_ofAnnotated t i h
  intro m hm
  obtain ⟨f, hf, hlength⟩ := (Interface.yields_ofTrait t j hj).2 m hm
  exact hlength.trans (ht f hf)

/-- The endpoints of an expanded trait can be written. -/
theorem Interface.writable_lonely {t : Rust.Trait} (ht : t.Indexable) {i : Interface}
    (h : Interface.ofAnnotated t = .ok i) :
    ∀ e ∈ ((Catalog.ofList [i]).resolve i.name).value.endpoints, e.Writable := by
  intro e he
  refine Catalog.writable_of_mem_endpoints_resolve (fun j hj => ?_) he
  rw [List.mem_singleton.mp hj]
  exact ⟨Interface.IsDeclared.writable (.inr (.inr ⟨t, h⟩)), indexable_of_ofAnnotated ht h⟩

/-! ### Documents -/

/-- The report is one of a catalog of declarations that were read. -/
def Report.IsOfDeclared (r : Report) : Prop :=
  ∃ (c : Catalog) (root : String), r = (c.resolve root).value ∧
    ∀ i ∈ c.interfaces, i.IsDeclared ∧ i.Indexable

theorem Report.IsOfDeclared.writable {r : Report} (h : r.IsOfDeclared) :
    ∀ e ∈ r.endpoints, e.Writable := by
  obtain ⟨c, root, rfl, hc⟩ := h
  intro e he
  exact Catalog.writable_of_mem_endpoints_resolve
    (fun i hi => ⟨(hc i hi).1.writable, (hc i hi).2⟩) he

/-- Either text of the document is read as the document. -/
theorem read?_renderReports (reports : List Report) (pretty : Bool) :
    Value.read? (renderReports reports pretty) = some (reportDocument reports) := by
  have hexact : (reportDocument reports).IsExact :=
    (isExact_list Report.isExact_toJson reports).sorted
  rw [renderReports]
  split
  · exact Value.read?_pretty hexact
  · exact Value.read?_compact hexact

/-- The endpoints in a document, report by report. -/
def endpointsOfDocument? (document : Value) : Option (List (List Endpoint)) :=
  listOf (required (listOf Endpoint.ofJson?) "specs") document

theorem endpointsOfDocument?_reportDocument {reports : List Report}
    (h : ∀ r ∈ reports, ∀ e ∈ r.endpoints, e.Writable) :
    endpointsOfDocument? (reportDocument reports) = some (reports.map Report.endpoints) := by
  have hg := Value.rearranges_sorted
  refine hg.listOf_map fun r hr => ?_
  have hspecs : listOf Endpoint.ofJson? (list Endpoint.reportJson r.endpoints).sorted =
      some r.endpoints :=
    hg.listOf fun e he => Endpoint.ofJson?_reportJson hg (h r hr e he)
  exact hg.required (by simp) (by simp [list]) hspecs

/-- **Nothing is lost.** The text of an expansion is read as the endpoints of its trait. Both texts
of a document are read as the document, and each report in it as its endpoints. None of them has a
custom verb that is spelled like a standard one, or a time beyond the limit. -/
theorem emitted_endpoints_restored :
    (∀ arguments t x, expand arguments t = .ok x → t.Indexable →
      ∃ i, Interface.ofAnnotated t = .ok i ∧
        endpointsOfText? x.text = some ((Catalog.ofList [i]).resolve i.name).value.endpoints) ∧
    ∀ reports : List Report, (∀ r ∈ reports, r.IsOfDeclared) →
      (∀ pretty, Value.read? (renderReports reports pretty) = some (reportDocument reports)) ∧
      endpointsOfDocument? (reportDocument reports) = some (reports.map Report.endpoints) ∧
      ∀ r ∈ reports, ∀ e ∈ r.endpoints,
        (∀ v : Verb, v.isStandard = true → e.verb ≠ .custom v.token) ∧ e.timeouts.Bounded := by
  constructor
  · intro arguments t x hx ht
    obtain ⟨i, hi, htext⟩ := yields_expand arguments t x hx
    refine ⟨i, hi, ?_⟩
    rw [htext]
    exact endpointsOfText?_compact (Interface.writable_lonely ht hi)
  · intro reports hreports
    have hwritable : ∀ r ∈ reports, ∀ e ∈ r.endpoints, e.Writable :=
      fun r hr => (hreports r hr).writable
    refine ⟨read?_renderReports reports, endpointsOfDocument?_reportDocument hwritable, ?_⟩
    intro r hr e he
    have h := hwritable r hr e he
    exact ⟨fun v hv => h.verb.ne_custom hv, h.timeouts⟩

/-- A trait with a method behind the attribute `get`. -/
def itemTrait : Rust.Trait where
  attributes := []
  isPublic := true
  name := "Items"
  bounds := [.named "Base"]
  members :=
    [.method
      { attributes :=
          [⟨false, ["get"], .tokens [.literal ⟨"\"/items/:id\"", .string "/items/:id"⟩]⟩]
        name := "fetch"
        isAsync := true
        inputs := [.receiver [], .typed [] (.name "id") ⟨.other, [.ident "u64"]⟩]
        output := none }]

/-- The declaration of the trait. -/
def itemInterface : Interface where
  name := "Items"
  isClient := true
  headers := []
  timeouts := .unset
  parents := ["Base"]
  methods := [⟨"fetch", true, [.plain "id" "u64"], [⟨.get, "/items/:id", true⟩], [], [], .unset⟩]

/-- A declaration in JSON, with a verb that is not standard, negative times and a content type that
has to be escaped. -/
def orderJson : Value :=
  .object
    [("name", .string "Orders"), ("is_client", .bool true),
      ("timeout", .object
        [("connect", .integer (-5)), ("request", .integer 2500), ("socket", .integer (-1))]),
      ("methods", .array
        [.object
          [("name", .string "place"), ("is_async", .bool true),
            ("params", .array [.object
              [("name", .string "order"), ("ty", .string "Order"),
                ("body", .object [("content_type", .string "a/\"b\"")])]]),
            ("routes", .array [.object
              [("method", .string "PLACE"), ("template", .string "/orders"),
                ("shorthand", .bool false)]])]])]

/-- What the declaration in JSON declares. -/
def orderInterface : Interface where
  name := "Orders"
  isClient := true
  headers := []
  timeouts := ⟨none, some 2500, none⟩
  parents := []
  methods :=
    [⟨"place", true, [⟨"order", "Order", none, none, none, some ⟨some "a/\"b\""⟩⟩],
      [⟨.custom "PLACE", "/orders", false⟩], [], [], .unset⟩]

theorem emitted_endpoints_restored_items_orders :
    (∃ x, expand [] itemTrait = .ok x ∧ endpointsOfText? x.text =
      some [⟨⟨"Items", "fetch", ["u64"]⟩, .get,
        [.fixed "/items/", .bound "id" "id" ⟨0, "id"⟩], none, [], [], [], .unset⟩]) ∧
    (∀ pretty, Value.read?
        (renderReports [((Catalog.ofList [orderInterface]).resolve "Orders").value] pretty) =
      some (reportDocument [((Catalog.ofList [orderInterface]).resolve "Orders").value])) ∧
    endpointsOfDocument?
        (reportDocument [((Catalog.ofList [orderInterface]).resolve "Orders").value]) =
      some [[⟨⟨"Orders", "place", ["Order"]⟩, .custom "PLACE", [.fixed "/orders"],
        some ⟨⟨0, "order"⟩, some "a/\"b\""⟩, [⟨"Content-Type", "a/\"b\""⟩], [], [],
        ⟨none, some 2500, none⟩⟩]] := by
  obtain ⟨hexpand, hreports⟩ := emitted_endpoints_restored
  constructor
  · have hsome : (expand [] itemTrait).toOption.isSome = true := by decide +kernel
    have hdeclared : Interface.ofAnnotated itemTrait = .ok itemInterface := by decide +kernel
    have hindexable : itemTrait.Indexable := by
      intro f hf
      cases List.mem_singleton.mp hf
      decide
    cases hx : expand [] itemTrait with
    | error e => rw [hx] at hsome; cases hsome
    | ok x =>
        obtain ⟨i, hi, hread⟩ := hexpand [] itemTrait x hx hindexable
        rw [hdeclared] at hi
        cases hi
        refine ⟨x, rfl, hread.trans ?_⟩
        decide +kernel
  · have hdeclared : Interface.ofJson? orderJson = some orderInterface := by rfl
    have hindexable : orderInterface.Indexable := by
      intro m hm
      cases List.mem_singleton.mp hm
      decide
    obtain ⟨htexts, hdocument, -⟩ := hreports
      [((Catalog.ofList [orderInterface]).resolve "Orders").value] (by
        refine List.forall_mem_singleton.mpr ⟨_, _, rfl, fun i hi => ?_⟩
        cases List.mem_singleton.mp hi
        exact ⟨.inl ⟨orderJson, hdeclared⟩, hindexable⟩)
    refine ⟨htexts, hdocument.trans ?_⟩
    decide +kernel

end ClientTraits
