import ClientTraits.Proofs.Json.Text
import ClientTraits.Proofs.Resolution.References
import ClientTraits.Proofs.Wire.Fields
import ClientTraits.Wire.Report

/-!
# Endpoints are read as they were written

The written form of an endpoint is not one of all endpoints: positions have 64 bits, times one bit
less, and a custom verb that is spelled like a standard one would be read as the standard one. An
endpoint without these is `Writable`, and it is read back from its written form, and also from the
form that it has in a report, whatever the order of the fields (`Endpoint.ofJson?_toJson`,
`Endpoint.ofJson?_reportJson`).
-/

namespace ClientTraits

open Json (Value Rearranges)
open Wire

/-- The position can be written. -/
def Argument.Writable (a : Argument) : Prop :=
  a.index ≤ 0xFFFFFFFFFFFFFFFF

/-- What the written form of an endpoint can express. -/
structure Endpoint.Writable (e : Endpoint) : Prop where
  verb : e.verb.Faithful
  arguments : ∀ a ∈ e.arguments, a.Writable
  timeouts : e.timeouts.Bounded

/-! ### Elements -/

section Elements

variable {g : Value → Value} (hg : Rearranges g)
include hg

theorem string?_string (s : String) : Value.string? (g (.string s)) = some s := by
  rw [hg.string]
  rfl

theorem listOf_string?_list (items : List String) :
    listOf Value.string? (g (list Value.string items)) = some items :=
  hg.listOf fun s _ => string?_string hg s

theorem string_ne_null (s : String) : g (.string s) ≠ .null := by
  rw [hg.string]
  exact Value.noConfusion

theorem optional_string {fields : List (String × Value)} (hnodup : (Value.fieldNames fields).Nodup)
    {name : String} (s? : Option String)
    (hmem : ∀ v, (name, v) ∈ fields ↔ ∃ s ∈ s?, Value.string s = v) :
    Wire.optional Value.string? name (g (.object fields)) = some s? :=
  hg.optional hnodup Value.string s? hmem (string_ne_null hg) fun s _ => string?_string hg s

theorem Argument.ofJson?_toJson {a : Argument} (h : a.Writable) :
    ofJson? (g a.toJson) = some a := by
  have hindex : indexOfJson? (g (.integer a.index)) = some a.index := by
    rw [hg.integer]
    exact if_pos h
  rw [ofJson?, toJson, hg.required (by simp) (by simp) hindex,
    hg.required (by simp) (by simp) (string?_string hg a.name)]
  rfl

theorem Header.ofJson?_toJson (h : Header) : ofJson? (g h.toJson) = some h := by
  rw [ofJson?, toJson, hg.required (by simp) (by simp) (string?_string hg h.name),
    hg.required (by simp) (by simp) (string?_string hg h.value)]
  rfl

theorem Header.listOf_ofJson?_list (headers : List Header) :
    listOf ofJson? (g (list toJson headers)) = some headers :=
  hg.listOf fun h _ => ofJson?_toJson hg h

theorem QueryItem.ofJson?_toJson {q : QueryItem} (h : ∀ name a, q = .bound name a → a.Writable) :
    ofJson? (g q.toJson) = some q := by
  cases q with
  | fixed name value =>
      rw [ofJson?, toJson, hg.required (by simp) (by simp) (string?_string hg "constant"),
        hg.required (by simp) (by simp) (string?_string hg name),
        hg.required (by simp) (by simp) (string?_string hg value)]
      rfl
  | bound name a =>
      rw [ofJson?, toJson, hg.required (by simp) (by simp) (string?_string hg "variable"),
        hg.required (by simp) (by simp) (string?_string hg name),
        hg.required (by simp) (by simp) (Argument.ofJson?_toJson hg (h name a rfl))]
      rfl

theorem ContextAttribute.ofJson?_toJson {x : ContextAttribute} (h : x.argument.Writable) :
    ofJson? (g x.toJson) = some x := by
  rw [ofJson?, toJson, hg.required (by simp) (by simp) (string?_string hg x.name),
    hg.required (by simp) (by simp) (Argument.ofJson?_toJson hg h)]
  rfl

theorem Template.Part.ofJson?_toJson {part : Part}
    (h : ∀ name written a, part = .bound name written a → a.Writable) :
    ofJson? (g part.toJson) = some part := by
  cases part with
  | fixed text =>
      rw [ofJson?, toJson, hg.required (by simp) (by simp) (string?_string hg "constant"),
        hg.required (by simp) (by simp) (string?_string hg text)]
      rfl
  | bound name written a =>
      rw [ofJson?, toJson, hg.required (by simp) (by simp) (string?_string hg "variable"),
        Option.bind_eq_bind, Option.bind_some, if_neg (by decide), if_pos rfl,
        hg.required (by simp) (by simp) (string?_string hg name),
        hg.required (by simp) (by simp) (string?_string hg written),
        hg.required (by simp) (by simp) (Argument.ofJson?_toJson hg (h name written a rfl))]
      rfl

theorem Payload.ofJson?_toJson {p : Payload} (h : p.argument.Writable) :
    ofJson? (g p.toJson) = some p := by
  have hnodup : (Value.fieldNames
      (("param", p.argument.toJson) :: optionalField "content_type" .string p.contentType)).Nodup :=
    ((Value.fieldNames_optionalField_sublist _ _ _).cons_cons "param").nodup (by simp)
  rw [ofJson?, toJson, hg.required hnodup (by simp) (Argument.ofJson?_toJson hg h),
    optional_string hg hnodup p.contentType (by simp)]
  rfl

theorem Verb.ofJson?_toJson {v : Verb} (h : v.Faithful) : ofJson? (g v.toJson) = some v := by
  rw [ofJson?, toJson, string?_string hg, Option.map_some, h]

theorem Timeouts.timeOfJson?_timeToJson {t : Option Nat} (h : ∀ n ∈ t, n ≤ limit) :
    timeOfJson? (g (timeToJson t)) = some t := by
  cases t with
  | none =>
      rw [timeToJson, hg.integer]
      rfl
  | some n =>
      have hn : n ≤ 0x7FFFFFFFFFFFFFFF := h n rfl
      have hrange : inRange n = true := by
        simp [inRange]
        omega
      rw [timeToJson, hg.integer]
      exact if_pos hrange

theorem Timeouts.ofJson?_toJson {t : Timeouts} (h : t.Bounded) : ofJson? (g t.toJson) = some t := by
  rw [ofJson?, toJson, hg.required (by simp) (by simp) (timeOfJson?_timeToJson hg h.1),
    hg.required (by simp) (by simp) (timeOfJson?_timeToJson hg h.2.1),
    hg.required (by simp) (by simp) (timeOfJson?_timeToJson hg h.2.2)]
  rfl

theorem Signature.ofJson?_toJson (s : Signature) : ofJson? (g s.toJson) = some s := by
  rw [ofJson?, toJson, hg.required (by simp) (by simp) (string?_string hg s.owner),
    hg.required (by simp) (by simp) (string?_string hg s.method), listField,
    hg.defaulted (by simp) (by simp [Value.strings, list]) (listOf_string?_list hg s.params)]
  rfl

end Elements

/-! ### Endpoints -/

namespace Endpoint

variable {e : Endpoint}

/-- The fields of an endpoint. -/
def jsonFields (e : Endpoint) : List (String × Value) :=
  [("signature", e.signature.toJson), ("method", e.verb.toJson),
    ("url", list Template.Part.toJson e.url)] ++
  optionalField "body" Payload.toJson e.payload ++
  [("headers", list Header.toJson e.headers),
    ("attributes", list ContextAttribute.toJson e.attributes),
    ("query", list QueryItem.toJson e.query), ("timeout", e.timeouts.toJson)]

theorem toJson_eq (e : Endpoint) : e.toJson = .object e.jsonFields :=
  rfl

/-- The fields that a report adds. -/
def shownFields (e : Endpoint) : List (String × Value) :=
  [("template", .string e.template), ("standard", .bool e.verb.isStandard)]

theorem nodup_fieldNames (e : Endpoint) :
    (Value.fieldNames (e.jsonFields ++ e.shownFields)).Nodup := by
  cases hp : e.payload <;> simp [jsonFields, shownFields, hp, optionalField]

theorem reportJson_eq (e : Endpoint) : e.reportJson = .object (e.jsonFields ++ e.shownFields) := by
  have hnew : ∀ f ∈ e.shownFields, f.1 ∉ Value.fieldNames e.jsonFields := by
    have hnodup := nodup_fieldNames e
    rw [Value.fieldNames_append, List.nodup_append'] at hnodup
    exact fun f hf hmem => hnodup.2.2 hmem (List.mem_map_of_mem hf)
  have htemplate : "template" ∉ Value.fieldNames e.jsonFields :=
    hnew ("template", .string e.template) (by simp [shownFields])
  have hstandard : "standard" ∉ Value.fieldNames e.jsonFields :=
    hnew ("standard", .bool e.verb.isStandard) (by simp [shownFields])
  rw [reportJson, toJson_eq, Value.setField_of_notMem htemplate,
    Value.setField_of_notMem (by simp [hstandard]), List.append_assoc]
  rfl

/-- An endpoint is read from its fields whatever other fields there are. -/
theorem ofJson?_object {g : Value → Value} (hg : Rearranges g) (h : e.Writable)
    (more : List (String × Value)) (hnodup : (Value.fieldNames (e.jsonFields ++ more)).Nodup)
    (hmore : "body" ∉ Value.fieldNames more) :
    ofJson? (g (.object (e.jsonFields ++ more))) = some e := by
  have hurl : listOf Template.Part.ofJson? (g (list Template.Part.toJson e.url)) = some e.url := by
    refine hg.listOf fun part hpart => Template.Part.ofJson?_toJson hg ?_
    rintro name written a rfl
    exact h.arguments a (mem_arguments.mpr (Or.inl ⟨name, written, hpart⟩))
  have hpayload :
      optional Payload.ofJson? "body" (g (.object (e.jsonFields ++ more))) = some e.payload := by
    have hmem : ∀ v, ("body", v) ∈ e.jsonFields ++ more ↔ ∃ p ∈ e.payload, p.toJson = v := by
      intro v
      have hv : ("body", v) ∉ more := fun hv => hmore (List.mem_map_of_mem hv)
      simp [jsonFields, hv]
    refine hg.optional hnodup Payload.toJson e.payload hmem (fun p => hg.object_ne_null _) ?_
    intro p hp
    exact Payload.ofJson?_toJson hg (h.arguments _ (mem_arguments.mpr (.inr (.inl ⟨p, hp, rfl⟩))))
  have hattributes : listOf ContextAttribute.ofJson?
      (g (list ContextAttribute.toJson e.attributes)) = some e.attributes := by
    refine hg.listOf fun x hx => ContextAttribute.ofJson?_toJson hg ?_
    exact h.arguments x.argument (mem_arguments.mpr (.inr (.inr (.inr ⟨x, hx, rfl⟩))))
  have hquery : listOf QueryItem.ofJson? (g (list QueryItem.toJson e.query)) = some e.query := by
    refine hg.listOf fun q hq => QueryItem.ofJson?_toJson hg ?_
    rintro name a rfl
    exact h.arguments a (mem_arguments.mpr (.inr (.inr (.inl ⟨name, hq⟩))))
  simp only [ofJson?, listField]
  rw [hg.required hnodup (by simp [jsonFields]) (Signature.ofJson?_toJson hg e.signature),
    hg.required hnodup (by simp [jsonFields]) (Verb.ofJson?_toJson hg h.verb),
    hg.required hnodup (by simp [jsonFields]) hurl, hpayload,
    hg.defaulted hnodup (by simp [jsonFields]) (Header.listOf_ofJson?_list hg e.headers),
    hg.defaulted hnodup (by simp [jsonFields]) hattributes,
    hg.defaulted hnodup (by simp [jsonFields]) hquery,
    hg.defaulted hnodup (by simp [jsonFields]) (Timeouts.ofJson?_toJson hg h.timeouts)]
  rfl

/-- **Round trip.** An endpoint is read as it was written, with its fields in any order. -/
theorem ofJson?_toJson {g : Value → Value} (hg : Rearranges g) (h : e.Writable) :
    ofJson? (g e.toJson) = some e := by
  have hnodup := nodup_fieldNames e
  rw [Value.fieldNames_append] at hnodup
  have hread := ofJson?_object hg h [] (by simp [hnodup.of_append_left]) (by simp)
  rwa [List.append_nil] at hread

/-- **Round trip.** What a report adds to an endpoint does not matter. -/
theorem ofJson?_reportJson {g : Value → Value} (hg : Rearranges g) (h : e.Writable) :
    ofJson? (g e.reportJson) = some e := by
  rw [reportJson_eq]
  exact ofJson?_object hg h e.shownFields (nodup_fieldNames e) (by simp [shownFields])

end Endpoint

/-! ### No fractions are written -/

section Exact

open Json.Value (IsExact)

theorem isExact_strings (items : List String) : (Value.strings items).IsExact := by
  simp [Value.strings]

theorem isExact_list {α : Type} {encode : α → Value} (h : ∀ a, (encode a).IsExact)
    (items : List α) : (list encode items).IsExact := by
  simp [list, h]

theorem isExact_optionalField {α : Type} {encode : α → Value} (h : ∀ a, (encode a).IsExact)
    (name : String) (a? : Option α) : ∀ f ∈ optionalField name encode a?, f.2.IsExact := by
  cases a? <;> simp [optionalField, h]

theorem Argument.isExact_toJson (a : Argument) : a.toJson.IsExact := by
  simp [toJson]

theorem Header.isExact_toJson (h : Header) : h.toJson.IsExact := by
  simp [toJson]

theorem QueryItem.isExact_toJson (q : QueryItem) : q.toJson.IsExact := by
  cases q <;> simp [toJson, Argument.isExact_toJson]

theorem ContextAttribute.isExact_toJson (x : ContextAttribute) : x.toJson.IsExact := by
  simp [toJson, Argument.isExact_toJson]

theorem Template.Part.isExact_toJson (part : Part) : part.toJson.IsExact := by
  cases part <;> simp [toJson, Argument.isExact_toJson]

theorem Payload.isExact_toJson (p : Payload) : p.toJson.IsExact := by
  rw [toJson, Value.isExact_object_iff, List.forall_mem_cons]
  exact ⟨p.argument.isExact_toJson, isExact_optionalField IsExact.string _ _⟩

theorem Timeouts.isExact_toJson (t : Timeouts) : t.toJson.IsExact := by
  have htime : ∀ t : Option Nat, (timeToJson t).IsExact := by
    intro t
    cases t <;> simp [timeToJson]
  simp [toJson, htime]

theorem Signature.isExact_toJson (s : Signature) : s.toJson.IsExact := by
  simp [toJson, isExact_strings]

theorem Endpoint.isExact_jsonFields (e : Endpoint) : ∀ f ∈ e.jsonFields, f.2.IsExact := by
  have hpayload := isExact_optionalField Payload.isExact_toJson "body" e.payload
  have hurl := isExact_list Template.Part.isExact_toJson e.url
  have hheaders := isExact_list Header.isExact_toJson e.headers
  have hattributes := isExact_list ContextAttribute.isExact_toJson e.attributes
  have hquery := isExact_list QueryItem.isExact_toJson e.query
  have hverb : e.verb.toJson.IsExact := .string _
  simp only [jsonFields, List.forall_mem_append, List.forall_mem_cons]
  exact ⟨⟨⟨e.signature.isExact_toJson, hverb, hurl, List.forall_mem_nil _⟩, hpayload⟩, hheaders,
    hattributes, hquery, e.timeouts.isExact_toJson, List.forall_mem_nil _⟩

theorem Endpoint.isExact_toJson (e : Endpoint) : e.toJson.IsExact :=
  .object e.isExact_jsonFields

theorem Endpoint.isExact_reportJson (e : Endpoint) : e.reportJson.IsExact := by
  rw [reportJson_eq, Value.isExact_object_iff, List.forall_mem_append]
  exact ⟨e.isExact_jsonFields, by simp [shownFields]⟩

theorem Report.isExact_toJson (r : Report) : r.toJson.IsExact := by
  simp [toJson, isExact_strings, Endpoint.isExact_reportJson]

end Exact

end ClientTraits
