import ClientTraits.Proofs.Wire.Writable

/-!
# Declarations are read as they were written

What `Proofs.Wire.RoundTrip` has for endpoints and their parts, for declarations and for settings
that are merged: whatever can be written is read back, with its fields in any order. Each type is
read back because its fields are, from the parts (`Route.ofJson?_toJson`, `Param.ofJson?_toJson`) up
to whole catalogs (`Catalog.ofJson?_toJson`) and to settings (`Fragment.ofJson?_toJson`).

The fields of settings stand behind a tag when they are part of a fragment, so that their rules
allow for other fields in front.
-/

namespace ClientTraits

open Json (Value Rearranges)
open Wire

/-! ### What can be written -/

/-- The reference can be written. -/
def Template.Part.Writable (part : Part) : Prop :=
  ∀ name written a, part = .bound name written a → a.Writable

/-- The reference can be written. -/
def QueryItem.Writable (q : QueryItem) : Prop :=
  ∀ name a, q = .bound name a → a.Writable

/-- What the written form of the settings of a method can express. -/
structure Call.Writable (c : Call) : Prop where
  url : ∀ part ∈ c.url, part.Writable
  verb : c.verb.Faithful
  payload : ∀ p ∈ c.payload, p.argument.Writable
  query : ∀ q ∈ c.query, q.Writable
  attributes : ∀ x ∈ c.attributes, x.argument.Writable
  timeouts : c.timeouts.Bounded

/-- What the written form of a fragment can express. -/
def Fragment.Writable : Fragment → Prop
  | empty => True
  | shared s => s.timeouts.Bounded
  | call c => c.Writable

/-- What the written form of a catalog can express. -/
def Catalog.Writable (c : Catalog) : Prop :=
  ∀ i ∈ c.interfaces, i.Writable

/-! ### Optional fields -/

namespace Param

/-- The fields of a parameter. -/
def jsonFields (p : Param) : List (String × Value) :=
  [("name", .string p.name), ("ty", .string p.type)] ++
  optionalField "rename" .string p.rename ++
  optionalField "query" Binding.toJson p.query ++
  optionalField "attr" Binding.toJson p.context ++
  optionalField "body" PayloadMark.toJson p.payload

theorem toJson_eq (p : Param) : p.toJson = .object p.jsonFields :=
  rfl

theorem nodup_fieldNames (p : Param) : (Value.fieldNames p.jsonFields).Nodup := by
  -- All four optional fields may be there, or any of them be missing.
  have hnodup : (["name", "ty"] ++ ["rename"] ++ ["query"] ++ ["attr"] ++ ["body"]).Nodup := by
    simp
  simp only [jsonFields, Value.fieldNames_append]
  refine List.Sublist.nodup (List.Sublist.append (List.Sublist.append (List.Sublist.append
    (List.Sublist.append (List.Sublist.refl _) ?_) ?_) ?_) ?_) hnodup
  all_goals exact Value.fieldNames_optionalField_sublist _ _ _

end Param

theorem Call.nodup_fieldNames (c : Call) : (Value.fieldNames c.jsonFields).Nodup := by
  cases hp : c.payload <;> simp [jsonFields, hp, optionalField]

section Rearranged

variable {g : Value → Value} (hg : Rearranges g)
include hg

theorem bool?_bool (b : Bool) : Value.bool? (g (.bool b)) = some b := by
  rw [hg.bool]
  rfl

/-! ### Declarations -/

theorem Route.ofJson?_toJson {r : Route} (h : r.verb.Faithful) : ofJson? (g r.toJson) = some r := by
  rw [ofJson?, toJson, hg.required (by simp) (by simp) (Verb.ofJson?_toJson hg h),
    hg.required (by simp) (by simp) (string?_string hg r.template),
    hg.required (by simp) (by simp) (bool?_bool hg r.shorthand)]
  rfl

theorem Binding.ofJson?_toJson (b : Binding) : ofJson? (g b.toJson) = some b := by
  have hnodup := (Value.fieldNames_optionalField_sublist "name" Value.string b.name).nodup (by simp)
  rw [ofJson?, toJson, hg.expectObject, optional_string hg hnodup b.name (by simp)]
  rfl

theorem PayloadMark.ofJson?_toJson (m : PayloadMark) : ofJson? (g m.toJson) = some m := by
  have hnames := Value.fieldNames_optionalField_sublist "content_type" Value.string m.contentType
  have hnodup := hnames.nodup (by simp)
  rw [ofJson?, toJson, hg.expectObject, optional_string hg hnodup m.contentType (by simp)]
  rfl

theorem Param.ofJson?_toJson (p : Param) : ofJson? (g p.toJson) = some p := by
  have hnodup := p.nodup_fieldNames
  have hbinding : ∀ b : Binding, Binding.ofJson? (g b.toJson) = some b :=
    Binding.ofJson?_toJson hg
  rw [ofJson?, toJson_eq, hg.required hnodup (by simp [jsonFields]) (string?_string hg p.name),
    hg.required hnodup (by simp [jsonFields]) (string?_string hg p.type),
    optional_string hg hnodup p.rename (by simp [jsonFields]),
    hg.optional hnodup Binding.toJson p.query (by simp [jsonFields])
      (fun b => hg.object_ne_null _) fun b _ => hbinding b,
    hg.optional hnodup Binding.toJson p.context (by simp [jsonFields])
      (fun b => hg.object_ne_null _) fun b _ => hbinding b,
    hg.optional hnodup PayloadMark.toJson p.payload (by simp [jsonFields])
      (fun m => hg.object_ne_null _) fun m _ => PayloadMark.ofJson?_toJson hg m]
  rfl

theorem Method.ofJson?_toJson {m : Method} (h : m.Writable) : ofJson? (g m.toJson) = some m := by
  have hparams : listOf Param.ofJson? (g (list Param.toJson m.params)) = some m.params :=
    hg.listOf fun p _ => Param.ofJson?_toJson hg p
  have hroutes : listOf Route.ofJson? (g (list Route.toJson m.routes)) = some m.routes :=
    hg.listOf fun r hr => Route.ofJson?_toJson hg (h.verbs r hr)
  have hqueries : listOf QueryItem.ofJson? (g (list QueryItem.toJson m.queries)) =
      some m.queries := by
    refine hg.listOf fun q hq => QueryItem.ofJson?_toJson hg ?_
    rintro name a rfl
    exact h.queries name a hq
  simp only [ofJson?, toJson, listField]
  rw [hg.required (by simp) (by simp) (string?_string hg m.name),
    hg.required (by simp) (by simp) (bool?_bool hg m.isAsync),
    hg.defaulted (by simp) (by simp) hparams, hg.defaulted (by simp) (by simp) hroutes,
    hg.defaulted (by simp) (by simp) (Header.listOf_ofJson?_list hg m.headers),
    hg.defaulted (by simp) (by simp) hqueries,
    hg.defaulted (by simp) (by simp) (Timeouts.ofJson?_toJson hg h.timeouts)]
  rfl

theorem Interface.ofJson?_toJson {i : Interface} (h : i.Writable) :
    ofJson? (g i.toJson) = some i := by
  have hmethods : listOf Method.ofJson? (g (list Method.toJson i.methods)) = some i.methods :=
    hg.listOf fun m hm => Method.ofJson?_toJson hg (h.methods m hm)
  simp only [ofJson?, toJson, listField]
  rw [hg.required (by simp) (by simp) (string?_string hg i.name),
    hg.required (by simp) (by simp) (bool?_bool hg i.isClient),
    hg.defaulted (by simp) (by simp) (Header.listOf_ofJson?_list hg i.headers),
    hg.defaulted (by simp) (by simp) (Timeouts.ofJson?_toJson hg h.timeouts),
    hg.defaulted (by simp) (by simp [Value.strings, list]) (listOf_string?_list hg i.parents),
    hg.defaulted (by simp) (by simp) hmethods]
  rfl

theorem Catalog.ofJson?_toJson {c : Catalog} (h : c.Writable) : ofJson? (g c.toJson) = some c := by
  have hinterfaces :
      listOf Interface.ofJson? (g (list Interface.toJson c.interfaces)) = some c.interfaces :=
    hg.listOf fun i hi => Interface.ofJson?_toJson hg (h i hi)
  rw [ofJson?, toJson, hg.required (by simp) (by simp) hinterfaces]
  rfl

/-! ### Settings -/

/-- Shared settings are read from their fields, whatever other fields stand in front. -/
theorem Shared.ofJson?_object {s : Shared} (h : s.timeouts.Bounded)
    (front : List (String × Value)) (hnodup : (Value.fieldNames (front ++ s.jsonFields)).Nodup) :
    ofJson? (g (.object (front ++ s.jsonFields))) = some s := by
  simp only [ofJson?, listField]
  rw [hg.expectObject,
    hg.defaulted hnodup (by simp [jsonFields]) (Header.listOf_ofJson?_list hg s.headers),
    hg.defaulted hnodup (by simp [jsonFields]) (Timeouts.ofJson?_toJson hg h)]
  rfl

/-- The settings of a method are read from their fields, whatever other fields stand in front. -/
theorem Call.ofJson?_object {c : Call} (h : c.Writable) (front : List (String × Value))
    (hnodup : (Value.fieldNames (front ++ c.jsonFields)).Nodup)
    (hfront : "body" ∉ Value.fieldNames front) :
    ofJson? (g (.object (front ++ c.jsonFields))) = some c := by
  have hurl : listOf Template.Part.ofJson? (g (list Template.Part.toJson c.url)) = some c.url :=
    hg.listOf fun part hpart => Template.Part.ofJson?_toJson hg (h.url part hpart)
  -- A payload in front would be read in the place of one that is not there.
  have hpayload : ∀ v, ("body", v) ∈ front ++ c.jsonFields ↔ ∃ p ∈ c.payload, p.toJson = v := by
    intro v
    have hv : ("body", v) ∉ front := fun hv => hfront (List.mem_map_of_mem hv)
    simp [jsonFields, hv]
  have hquery : listOf QueryItem.ofJson? (g (list QueryItem.toJson c.query)) = some c.query :=
    hg.listOf fun q hq => QueryItem.ofJson?_toJson hg (h.query q hq)
  have hattributes : listOf ContextAttribute.ofJson?
      (g (list ContextAttribute.toJson c.attributes)) = some c.attributes :=
    hg.listOf fun x hx => ContextAttribute.ofJson?_toJson hg (h.attributes x hx)
  simp only [ofJson?, listField]
  rw [hg.required hnodup (by simp [jsonFields]) hurl,
    hg.required hnodup (by simp [jsonFields]) (Verb.ofJson?_toJson hg h.verb),
    hg.optional hnodup Payload.toJson c.payload hpayload (fun p => hg.object_ne_null _) fun p hp =>
      Payload.ofJson?_toJson hg (h.payload p hp),
    hg.defaulted hnodup (by simp [jsonFields]) (Header.listOf_ofJson?_list hg c.headers),
    hg.defaulted hnodup (by simp [jsonFields]) hquery,
    hg.defaulted hnodup (by simp [jsonFields]) hattributes,
    hg.defaulted hnodup (by simp [jsonFields]) (Timeouts.ofJson?_toJson hg h.timeouts)]
  rfl

theorem Call.ofJson?_toJson {c : Call} (h : c.Writable) : ofJson? (g c.toJson) = some c :=
  ofJson?_object hg h [] c.nodup_fieldNames List.not_mem_nil

theorem Fragment.ofJson?_toJson {f : Fragment} (h : f.Writable) :
    ofJson? (g f.toJson) = some f := by
  cases f with
  | empty =>
      rw [ofJson?, toJson, hg.required (by simp) (by simp) (string?_string hg "empty")]
      rfl
  | shared s =>
      have hnodup : (Value.fieldNames (("level", .string "class") :: s.jsonFields)).Nodup := by
        simp [Shared.jsonFields]
      have hread := Shared.ofJson?_object hg h [("level", .string "class")] hnodup
      rw [ofJson?, toJson, hg.required hnodup (by simp) (string?_string hg "class"),
        Option.bind_eq_bind, Option.bind_some, if_neg (by decide), if_pos rfl]
      exact Option.map_eq_some_iff.mpr ⟨s, hread, rfl⟩
  | call c =>
      have hlevel : "level" ∉ Value.fieldNames c.jsonFields := by
        simp [Call.jsonFields]
      have hnodup : (Value.fieldNames (("level", .string "method") :: c.jsonFields)).Nodup :=
        List.nodup_cons.mpr ⟨hlevel, c.nodup_fieldNames⟩
      have hread := Call.ofJson?_object hg h [("level", .string "method")] hnodup (by simp)
      rw [ofJson?, toJson, hg.required hnodup (by simp) (string?_string hg "method"),
        Option.bind_eq_bind, Option.bind_some, if_neg (by decide), if_neg (by decide), if_pos rfl]
      exact Option.map_eq_some_iff.mpr ⟨c, hread, rfl⟩

end Rearranged

end ClientTraits
