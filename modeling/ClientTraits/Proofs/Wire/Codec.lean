import ClientTraits.Proofs.Wire.Declarations
import ClientTraits.Proofs.Wire.Lossless

/-!
# Written forms and what they can express

A type that is written as JSON comes with two functions and a condition, and all three fit together
(`RoundTrips`): what satisfies the condition is read back, and nothing else is ever read. So what
was read can be written again, and that changes no more than the form: negative times become `-1`,
defaults are filled in, and unknown fields are dropped. To do it twice changes nothing more.

The conditions are about three things: no custom verb is spelled like a standard one, no time is
beyond the limit, and positions have 64 bits. Types without verbs, times and positions have none.
-/

namespace ClientTraits

open Json (Value rearranges_id)
open Wire

/-! ### Laws of a written form -/

/-- The written form of a type expresses exactly what can be written. -/
structure RoundTrips {α : Type} (encode : α → Value) (decode : Value → Option α)
    (Writable : α → Prop) : Prop where
  /-- What can be written is read back. -/
  decode_encode : ∀ a, Writable a → decode (encode a) = some a
  /-- What was read can be written. -/
  writable_of_decode : ∀ v a, decode v = some a → Writable a
  /-- What was read is written in a form that is read as the same and written as it is. -/
  normalizes : ∀ v w, (decode v).map encode = some w →
    decode w = decode v ∧ (decode w).map encode = some w

theorem RoundTrips.of_laws {α : Type} {encode : α → Value} {decode : Value → Option α}
    {Writable : α → Prop} (hencode : ∀ a, Writable a → decode (encode a) = some a)
    (hdecode : ∀ v a, decode v = some a → Writable a) : RoundTrips encode decode Writable where
  decode_encode := hencode
  writable_of_decode := hdecode
  normalizes v w h := by
    obtain ⟨a, ha, rfl⟩ := Option.map_eq_some_iff.mp h
    have hread : decode (encode a) = some a := hencode a (hdecode v a ha)
    simp [hread, ha]

/-- A type whose values can all be written. -/
theorem RoundTrips.of_total {α : Type} {encode : α → Value} {decode : Value → Option α}
    (h : ∀ a, decode (encode a) = some a) : RoundTrips encode decode fun _ => True :=
  .of_laws (fun a _ => h a) fun _ _ _ => trivial

/-! ### Verbs -/

/-- A verb is denoted by its token unless it is a custom one that is spelled like a standard one. -/
theorem Verb.faithful_iff {v : Verb} :
    v.Faithful ↔ ∀ w : Verb, w.isStandard = true → v ≠ .custom w.token := by
  constructor
  · intro h w hw
    exact h.ne_custom hw
  · intro h
    cases v with
    | custom token =>
        -- A custom token that is read as a standard verb is the token of that verb.
        have htoken := token_ofToken token
        cases hread : ofToken token with
        | custom token' =>
            rw [hread] at htoken
            cases htoken
            exact hread
        | _ => exact absurd (congrArg custom htoken.symm) (h _ (by rw [hread]; rfl))
    | _ => rfl

/-! ### What was read can be written -/

section Read

variable {v : Value}

theorem Template.Part.writable_of_ofJson? {part : Part} (h : ofJson? v = some part) :
    part.Writable := by
  rintro name written a rfl
  simp only [ofJson?, Option.bind_eq_bind, Option.bind_eq_some_iff] at h
  obtain ⟨kind, -, h⟩ := h
  split at h
  · obtain ⟨text, -, hfixed⟩ := Option.bind_eq_some_iff.mp h
    cases hfixed
  · split at h
    · simp only [Option.bind_eq_some_iff] at h
      obtain ⟨_, -, _, -, _, hargument, hbound⟩ := h
      cases hbound
      obtain ⟨w, hw⟩ := exists_of_required hargument
      exact Argument.writable_of_ofJson? hw
    · cases h

theorem ContextAttribute.writable_of_ofJson? {x : ContextAttribute} (h : ofJson? v = some x) :
    x.argument.Writable := by
  simp only [ofJson?, Option.bind_eq_bind, Option.bind_eq_some_iff] at h
  obtain ⟨name, -, argument, hargument, hx⟩ := h
  cases hx
  obtain ⟨w, hw⟩ := exists_of_required hargument
  exact Argument.writable_of_ofJson? hw

theorem Payload.writable_of_ofJson? {p : Payload} (h : ofJson? v = some p) :
    p.argument.Writable := by
  simp only [ofJson?, Option.bind_eq_bind, Option.bind_eq_some_iff] at h
  obtain ⟨argument, hargument, contentType, -, hp⟩ := h
  cases hp
  obtain ⟨w, hw⟩ := exists_of_required hargument
  exact Argument.writable_of_ofJson? hw

theorem Shared.bounded_of_ofJson? {s : Shared} (h : ofJson? v = some s) : s.timeouts.Bounded := by
  simp only [ofJson?, Option.bind_eq_bind, Option.bind_eq_some_iff] at h
  obtain ⟨_, -, headers, -, timeouts, htimeouts, hs⟩ := h
  cases hs
  exact Timeouts.bounded_of_defaulted htimeouts

theorem Call.writable_of_ofJson? {c : Call} (h : ofJson? v = some c) : c.Writable := by
  simp only [ofJson?, Option.bind_eq_bind, Option.bind_eq_some_iff] at h
  obtain ⟨url, hurl, verb, hverb, payload, hpayload, headers, -, query, hquery, attributes,
    hattributes, timeouts, htimeouts, hc⟩ := h
  cases hc
  refine ⟨fun part hpart => ?_, ?_, fun p hp => ?_, fun q hq => ?_, fun x hx => ?_,
    Timeouts.bounded_of_defaulted htimeouts⟩
  · obtain ⟨w, hw⟩ := exists_of_required hurl
    obtain ⟨w, hw⟩ := exists_of_mem_listOf hw hpart
    exact Template.Part.writable_of_ofJson? hw
  · obtain ⟨w, hw⟩ := exists_of_required hverb
    exact Verb.faithful_of_ofJson? hw
  · obtain ⟨w, hw⟩ := exists_of_optional hpayload hp
    exact Payload.writable_of_ofJson? hw
  · obtain ⟨w, hw⟩ := exists_of_mem_listField hquery hq
    rintro name a rfl
    exact QueryItem.writable_of_ofJson? hw
  · obtain ⟨w, hw⟩ := exists_of_mem_listField hattributes hx
    exact ContextAttribute.writable_of_ofJson? hw

theorem Fragment.writable_of_ofJson? {f : Fragment} (h : ofJson? v = some f) : f.Writable := by
  simp only [ofJson?, Option.bind_eq_bind, Option.bind_eq_some_iff] at h
  obtain ⟨level, -, h⟩ := h
  split at h
  · cases h
    exact trivial
  · split at h
    · obtain ⟨s, hs, rfl⟩ := Option.map_eq_some_iff.mp h
      exact Shared.bounded_of_ofJson? hs
    · split at h
      · obtain ⟨c, hc, rfl⟩ := Option.map_eq_some_iff.mp h
        exact Call.writable_of_ofJson? hc
      · cases h

theorem Endpoint.writable_of_ofJson? {e : Endpoint} (h : ofJson? v = some e) : e.Writable := by
  simp only [ofJson?, Option.bind_eq_bind, Option.bind_eq_some_iff] at h
  obtain ⟨signature, -, verb, hverb, url, hurl, payload, hpayload, headers, -, attributes,
    hattributes, query, hquery, timeouts, htimeouts, he⟩ := h
  cases he
  refine ⟨?_, fun a ha => ?_, Timeouts.bounded_of_defaulted htimeouts⟩
  · obtain ⟨w, hw⟩ := exists_of_required hverb
    exact Verb.faithful_of_ofJson? hw
  · rcases mem_arguments.mp ha with
      ⟨name, written, hpart⟩ | ⟨p, hp, rfl⟩ | ⟨name, hq⟩ | ⟨x, hx, rfl⟩
    · obtain ⟨w, hw⟩ := exists_of_required hurl
      obtain ⟨w, hw⟩ := exists_of_mem_listOf hw hpart
      exact Template.Part.writable_of_ofJson? hw name written a rfl
    · obtain ⟨w, hw⟩ := exists_of_optional hpayload hp
      exact Payload.writable_of_ofJson? hw
    · obtain ⟨w, hw⟩ := exists_of_mem_listField hquery hq
      exact QueryItem.writable_of_ofJson? hw
    · obtain ⟨w, hw⟩ := exists_of_mem_listField hattributes hx
      exact ContextAttribute.writable_of_ofJson? hw

theorem Catalog.writable_of_ofJson? {c : Catalog} (h : ofJson? v = some c) : c.Writable := by
  simp only [ofJson?, Option.bind_eq_bind, Option.bind_eq_some_iff] at h
  obtain ⟨interfaces, hinterfaces, hc⟩ := h
  cases hc
  intro i hi
  obtain ⟨w, hw⟩ := exists_of_required hinterfaces
  obtain ⟨w, hw⟩ := exists_of_mem_listOf hw hi
  exact Interface.writable_of_ofJson? hw

end Read

/-! ### All written forms -/

/-- **Round trips.** Whatever is written as JSON is read back, unless it contains a custom verb that
is spelled like a standard one, a time beyond the limit or a position beyond 64 bits. Nothing that
was read contains one, and so to write it again normalizes its form. -/
theorem wire_roundTrips :
    (∀ v : Verb, v.Faithful ↔ ∀ w : Verb, w.isStandard = true → v ≠ .custom w.token) ∧
    RoundTrips Verb.toJson Verb.ofJson? Verb.Faithful ∧
    RoundTrips Argument.toJson Argument.ofJson? Argument.Writable ∧
    RoundTrips Header.toJson Header.ofJson? (fun _ => True) ∧
    RoundTrips QueryItem.toJson QueryItem.ofJson? QueryItem.Writable ∧
    RoundTrips ContextAttribute.toJson ContextAttribute.ofJson? (·.argument.Writable) ∧
    RoundTrips Payload.toJson Payload.ofJson? (·.argument.Writable) ∧
    RoundTrips Timeouts.toJson Timeouts.ofJson? Timeouts.Bounded ∧
    RoundTrips Template.Part.toJson Template.Part.ofJson? Template.Part.Writable ∧
    RoundTrips (fun s : Shared => .object s.jsonFields) Shared.ofJson? (·.timeouts.Bounded) ∧
    RoundTrips Call.toJson Call.ofJson? Call.Writable ∧
    RoundTrips Fragment.toJson Fragment.ofJson? Fragment.Writable ∧
    RoundTrips Route.toJson Route.ofJson? (·.verb.Faithful) ∧
    RoundTrips Binding.toJson Binding.ofJson? (fun _ => True) ∧
    RoundTrips PayloadMark.toJson PayloadMark.ofJson? (fun _ => True) ∧
    RoundTrips Param.toJson Param.ofJson? (fun _ => True) ∧
    RoundTrips Method.toJson Method.ofJson? Method.Writable ∧
    RoundTrips Interface.toJson Interface.ofJson? Interface.Writable ∧
    RoundTrips Catalog.toJson Catalog.ofJson? Catalog.Writable ∧
    RoundTrips Signature.toJson Signature.ofJson? (fun _ => True) ∧
    RoundTrips Endpoint.toJson Endpoint.ofJson? Endpoint.Writable := by
  refine ⟨fun v => Verb.faithful_iff, ?verb, ?argument, ?header, ?query, ?context, ?payload,
    ?timeouts, ?part, ?shared, ?call, ?fragment, ?route, ?binding, ?mark, ?param, ?method,
    ?interface, ?catalog, ?signature, ?endpoint⟩
  case verb =>
    exact .of_laws (fun _ => Verb.ofJson?_toJson rearranges_id) fun _ _ => Verb.faithful_of_ofJson?
  case argument =>
    exact .of_laws (fun _ => Argument.ofJson?_toJson rearranges_id)
      fun _ _ => Argument.writable_of_ofJson?
  case header => exact .of_total (Header.ofJson?_toJson rearranges_id)
  case query =>
    refine .of_laws (fun _ => QueryItem.ofJson?_toJson rearranges_id) fun v q hq name a hbound => ?_
    exact QueryItem.writable_of_ofJson? (hbound ▸ hq)
  case context =>
    exact .of_laws (fun _ => ContextAttribute.ofJson?_toJson rearranges_id)
      fun _ _ => ContextAttribute.writable_of_ofJson?
  case payload =>
    exact .of_laws (fun _ => Payload.ofJson?_toJson rearranges_id)
      fun _ _ => Payload.writable_of_ofJson?
  case timeouts =>
    exact .of_laws (fun _ => Timeouts.ofJson?_toJson rearranges_id)
      fun _ _ => Timeouts.bounded_of_ofJson?
  case part =>
    exact .of_laws (fun _ => Template.Part.ofJson?_toJson rearranges_id)
      fun _ _ => Template.Part.writable_of_ofJson?
  case shared =>
    refine .of_laws (fun s hs => ?_) fun _ _ => Shared.bounded_of_ofJson?
    exact Shared.ofJson?_object rearranges_id hs [] (by simp [Shared.jsonFields])
  case call =>
    exact .of_laws (fun _ => Call.ofJson?_toJson rearranges_id) fun _ _ => Call.writable_of_ofJson?
  case fragment =>
    exact .of_laws (fun _ => Fragment.ofJson?_toJson rearranges_id)
      fun _ _ => Fragment.writable_of_ofJson?
  case route =>
    exact .of_laws (fun _ => Route.ofJson?_toJson rearranges_id)
      fun _ _ => Route.faithful_of_ofJson?
  case binding => exact .of_total (Binding.ofJson?_toJson rearranges_id)
  case mark => exact .of_total (PayloadMark.ofJson?_toJson rearranges_id)
  case param => exact .of_total (Param.ofJson?_toJson rearranges_id)
  case method =>
    exact .of_laws (fun _ => Method.ofJson?_toJson rearranges_id)
      fun _ _ => Method.writable_of_ofJson?
  case interface =>
    exact .of_laws (fun _ => Interface.ofJson?_toJson rearranges_id)
      fun _ _ => Interface.writable_of_ofJson?
  case catalog =>
    exact .of_laws (fun _ => Catalog.ofJson?_toJson rearranges_id)
      fun _ _ => Catalog.writable_of_ofJson?
  case signature => exact .of_total (Signature.ofJson?_toJson rearranges_id)
  case endpoint =>
    exact .of_laws (fun _ => Endpoint.ofJson?_toJson rearranges_id)
      fun _ _ => Endpoint.writable_of_ofJson?

/-- A declaration with a negative time and without defaults, and the form that it is written in. -/
theorem wire_roundTrips_orders :
    Interface.ofJson? orderJson = some orderInterface ∧ orderInterface.Writable ∧
      Interface.ofJson? orderInterface.toJson = some orderInterface ∧
      orderInterface.toJson.field? "timeout" = some (.object
        [("connect", .integer (-1)), ("request", .integer 2500), ("socket", .integer (-1))]) ∧
      orderInterface.toJson.field? "headers" = some (.array []) := by
  have hread : Interface.ofJson? orderJson = some orderInterface := by rfl
  obtain ⟨-, -, -, -, -, -, -, -, -, -, -, -, -, -, -, -, -, hinterface, -⟩ := wire_roundTrips
  have hwritable := hinterface.writable_of_decode orderJson orderInterface hread
  exact ⟨hread, hwritable, hinterface.decode_encode orderInterface hwritable, by rfl, by rfl⟩

/-- A custom verb that is spelled like a standard one is read as the standard one. -/
example : Verb.ofJson? (Verb.custom "GET").toJson = some .get := by rfl

end ClientTraits
