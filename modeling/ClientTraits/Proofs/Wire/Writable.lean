import ClientTraits.Expansion
import ClientTraits.Proofs.Annotation.Declared
import ClientTraits.Proofs.Resolution.References
import ClientTraits.Proofs.Wire.RoundTrip
import ClientTraits.Wire.Declaration

/-!
# What is resolved can be written

Declarations come from annotated traits or from JSON. Neither can say what an endpoint could not be
written with (`Interface.IsDeclared.writable`), and resolution does not bring it in, as long as the
positions of parameters fit into 64 bits (`Catalog.writable_of_mem_endpoints_resolve`).
-/

namespace ClientTraits

open Json (Value)
open Wire

/-! ### Declarations -/

/-- What a declared method may say if its endpoints are to be written. -/
structure Method.Writable (m : Method) : Prop where
  verbs : ∀ r ∈ m.routes, r.verb.Faithful
  queries : ∀ name a, .bound name a ∈ m.queries → a.Writable
  timeouts : m.timeouts.Bounded

/-- What a declared interface may say if its endpoints are to be written. -/
structure Interface.Writable (i : Interface) : Prop where
  timeouts : i.timeouts.Bounded
  methods : ∀ m ∈ i.methods, m.Writable

theorem Method.Annotated.writable {m : Method} (h : m.Annotated) : m.Writable where
  verbs := h.verbs
  queries name a ha := by
    obtain ⟨_, _, hfixed⟩ := h.queries _ ha
    cases hfixed
  timeouts := h.timeouts

theorem Interface.Annotated.writable {i : Interface} (h : i.Annotated) : i.Writable where
  timeouts := h.timeouts
  methods m hm := (h.methods m hm).writable

/-! ### Declarations from JSON -/

section Fields

variable {α : Type} {decode : Value → Option α} {name : String} {v : Value}

theorem exists_of_required {a : α} (h : required decode name v = some a) :
    ∃ w, decode w = some a := by
  obtain ⟨w, -, hw⟩ := Option.bind_eq_some_iff.mp h
  exact ⟨w, hw⟩

theorem exists_of_defaulted {default a : α} (h : defaulted decode default name v = some a) :
    a = default ∨ ∃ w, decode w = some a := by
  rw [defaulted] at h
  split at h
  · exact Or.inl (Option.some.inj h).symm
  · exact Or.inr ⟨_, h⟩

theorem exists_of_mem_mapM {values : List Value} {items : List α}
    (h : values.mapM decode = some items) {a : α} (ha : a ∈ items) : ∃ w, decode w = some a := by
  induction values generalizing items with
  | nil =>
      cases h
      exact absurd ha List.not_mem_nil
  | cons w rest ih =>
      simp only [List.mapM_cons, Option.bind_eq_bind, Option.bind_eq_some_iff] at h
      obtain ⟨b, hb, more, hmore, hitems⟩ := h
      cases hitems
      rcases List.mem_cons.mp ha with rfl | ha
      · exact ⟨w, hb⟩
      · exact ih hmore ha

theorem exists_of_mem_listOf {items : List α} (h : listOf decode v = some items) {a : α}
    (ha : a ∈ items) : ∃ w, decode w = some a := by
  unfold listOf at h
  split at h
  · exact exists_of_mem_mapM h ha
  · cases h

theorem exists_of_mem_listField {items : List α} (h : listField decode name v = some items) {a : α}
    (ha : a ∈ items) : ∃ w, decode w = some a := by
  rcases exists_of_defaulted h with rfl | ⟨w, hw⟩
  · exact absurd ha List.not_mem_nil
  · exact exists_of_mem_listOf hw ha

theorem exists_of_optional {a? : Option α} (h : Wire.optional decode name v = some a?) {a : α}
    (ha : a ∈ a?) : ∃ w, decode w = some a := by
  unfold Wire.optional at h
  split at h
  · cases h
    cases ha
  · cases h
    cases ha
  · obtain ⟨b, hb, rfl⟩ := Option.map_eq_some_iff.mp h
    cases ha
    exact ⟨_, hb⟩

end Fields

theorem Argument.writable_of_ofJson? {v : Value} {a : Argument} (h : ofJson? v = some a) :
    a.Writable := by
  simp only [ofJson?, Option.bind_eq_bind, Option.bind_eq_some_iff] at h
  obtain ⟨index, hindex, name, -, ha⟩ := h
  cases ha
  obtain ⟨w, hw⟩ := exists_of_required hindex
  unfold indexOfJson? at hw
  split at hw
  · next n =>
      split at hw
      · next hn =>
          cases hw
          exact hn
      · cases hw
  · cases hw

theorem QueryItem.writable_of_ofJson? {v : Value} {name : String} {a : Argument}
    (h : ofJson? v = some (.bound name a)) : a.Writable := by
  simp only [ofJson?, Option.bind_eq_bind, Option.bind_eq_some_iff] at h
  obtain ⟨kind, -, h⟩ := h
  split at h
  · simp only [Option.bind_eq_some_iff] at h
    obtain ⟨_, -, _, -, hfixed⟩ := h
    cases hfixed
  · split at h
    · simp only [Option.bind_eq_some_iff] at h
      obtain ⟨_, -, _, hargument, hbound⟩ := h
      cases hbound
      obtain ⟨w, hw⟩ := exists_of_required hargument
      exact Argument.writable_of_ofJson? hw
    · cases h

/-- A time that was read is within the limit. -/
theorem Timeouts.le_limit_of_timeOfJson? {v : Value} {t : Option Nat} (h : timeOfJson? v = some t) :
    ∀ n ∈ t, n ≤ limit := by
  unfold timeOfJson? at h
  split at h
  · next k =>
      split at h
      · next hk =>
          cases h
          intro n hn
          rw [inRange, Bool.and_eq_true, decide_eq_true_eq, decide_eq_true_eq] at hk
          exact le_limit_of_mem_timeOfInt hk.2 hn
      · cases h
  · cases h

theorem Timeouts.bounded_of_ofJson? {v : Value} {t : Timeouts} (h : ofJson? v = some t) :
    t.Bounded := by
  simp only [ofJson?, Option.bind_eq_bind, Option.bind_eq_some_iff] at h
  obtain ⟨connect, hconnect, request, hrequest, socket, hsocket, ht⟩ := h
  cases ht
  obtain ⟨c, hc⟩ := exists_of_required hconnect
  obtain ⟨r, hr⟩ := exists_of_required hrequest
  obtain ⟨s, hs⟩ := exists_of_required hsocket
  exact ⟨le_limit_of_timeOfJson? hc, le_limit_of_timeOfJson? hr, le_limit_of_timeOfJson? hs⟩

/-- Timeouts that may be absent are within the limit. -/
theorem Timeouts.bounded_of_defaulted {name : String} {v : Value} {t : Timeouts}
    (h : defaulted ofJson? .unset name v = some t) : t.Bounded := by
  rcases exists_of_defaulted h with rfl | ⟨w, hw⟩
  · exact unset_bounded
  · exact bounded_of_ofJson? hw

theorem Verb.faithful_of_ofJson? {v : Value} {verb : Verb} (h : ofJson? v = some verb) :
    verb.Faithful := by
  obtain ⟨token, -, rfl⟩ := Option.map_eq_some_iff.mp h
  exact faithful_ofToken token

theorem Route.faithful_of_ofJson? {v : Value} {r : Route} (h : ofJson? v = some r) :
    r.verb.Faithful := by
  simp only [ofJson?, Option.bind_eq_bind, Option.bind_eq_some_iff] at h
  obtain ⟨verb, hverb, template, -, shorthand, -, hr⟩ := h
  cases hr
  obtain ⟨w, hw⟩ := exists_of_required hverb
  exact Verb.faithful_of_ofJson? hw

theorem Method.writable_of_ofJson? {v : Value} {m : Method} (h : ofJson? v = some m) :
    m.Writable := by
  simp only [ofJson?, Option.bind_eq_bind, Option.bind_eq_some_iff] at h
  obtain ⟨name, -, isAsync, -, params, -, routes, hroutes, headers, -, queries, hqueries, timeouts,
    htimeouts, hm⟩ := h
  cases hm
  refine ⟨fun r hr => ?_, fun name a ha => ?_, Timeouts.bounded_of_defaulted htimeouts⟩
  · obtain ⟨w, hw⟩ := exists_of_mem_listField hroutes hr
    exact Route.faithful_of_ofJson? hw
  · obtain ⟨w, hw⟩ := exists_of_mem_listField hqueries ha
    exact QueryItem.writable_of_ofJson? hw

theorem Interface.writable_of_ofJson? {v : Value} {i : Interface} (h : ofJson? v = some i) :
    i.Writable := by
  simp only [ofJson?, Option.bind_eq_bind, Option.bind_eq_some_iff] at h
  obtain ⟨name, -, isClient, -, headers, -, timeouts, htimeouts, parents, -, methods, hmethods,
    hi⟩ := h
  cases hi
  refine ⟨Timeouts.bounded_of_defaulted htimeouts, fun m hm => ?_⟩
  obtain ⟨w, hw⟩ := exists_of_mem_listField hmethods hm
  exact Method.writable_of_ofJson? hw

/-! ### Resolved endpoints -/

/-- The declaration was read: from JSON, from a trait in a source file, or from a trait that is
expanded. -/
def Interface.IsDeclared (i : Interface) : Prop :=
  (∃ v, Interface.ofJson? v = some i) ∨ (∃ t, Interface.ofTrait t = .ok i) ∨
    ∃ t, Interface.ofAnnotated t = .ok i

theorem Interface.IsDeclared.writable {i : Interface} (h : i.IsDeclared) : i.Writable := by
  rcases h with ⟨v, hv⟩ | ⟨t, ht⟩ | ⟨t, ht⟩
  · exact Interface.writable_of_ofJson? hv
  · exact (Interface.yields_ofTrait t i ht).1.writable
  · obtain ⟨j, hj, rfl⟩ := Interface.yields_ofAnnotated t i ht
    have hwritable := (Interface.yields_ofTrait t j hj).1.writable
    exact ⟨hwritable.timeouts, hwritable.methods⟩

/-- The positions of parameters fit into 64 bits. -/
def Interface.Indexable (i : Interface) : Prop :=
  ∀ m ∈ i.methods, m.params.length ≤ 2 ^ 64

/-- Merged settings keep within the limit. -/
theorem bounded_sharedSettings {interfaces : List Interface}
    (h : ∀ i ∈ interfaces, i.timeouts.Bounded) : (sharedSettings interfaces).timeouts.Bounded := by
  rw [sharedSettings_eq_foldl]
  refine List.foldlRecOn (motive := fun settings : Fragment => settings.timeouts.Bounded)
    interfaces _ Timeouts.unset_bounded fun settings hsettings i hi => ?_
  rw [Fragment.timeouts_merge]
  exact hsettings.merge (h i hi)

theorem Lineage.mem_of_mem_interfaces {c : Catalog} {l : Lineage} (hin : l.IsIn c)
    (hfirst : l.first ∈ c.interfaces) : ∀ j ∈ l.interfaces, j ∈ c.interfaces := by
  induction l with
  | self i => exact List.forall_mem_singleton.mpr hfirst
  | via i entry rest ih =>
      obtain ⟨hstep, hrest⟩ := hin
      obtain ⟨parent, -, hparent⟩ := Option.bind_eq_some_iff.mp hstep
      exact List.forall_mem_cons.mpr ⟨hfirst, ih hrest (Catalog.mem_of_find? hparent)⟩

namespace Catalog

/-- **Endpoints can be written.** If the declarations say nothing that cannot be written, no
endpoint does. -/
theorem writable_of_mem_endpoints_resolve {c : Catalog}
    (h : ∀ i ∈ c.interfaces, i.Writable ∧ i.Indexable) {root : String} {e : Endpoint}
    (he : e ∈ (c.resolve root).value.endpoints) : e.Writable := by
  obtain ⟨i, hi, l, hl, hlast, m, hm, route, call, hcollects, rfl⟩ :=
    exists_of_mem_endpoints_resolve he
  obtain ⟨hlastWritable, hindexable⟩ := h _ (mem_of_find? hlast)
  have hmethod := hlastWritable.methods m hm
  refine ⟨?_, fun a ha => ?_, ?_⟩
  · change call.verb.Faithful
    rw [hcollects.verb]
    exact hmethod.verbs route hcollects.route_mem
  · have ha' := arguments_ofCall_apply (not_isCall_sharedSettings _) _ _ ha
    rcases hcollects.hasArgument _ ha' with ⟨hlt, -⟩ | ⟨name, hq⟩
    · have hlength := hindexable m hm
      rw [Argument.Writable]
      omega
    · exact hmethod.queries name a hq
  · obtain ⟨hfirst, hin, -⟩ := mem_lineages.mp hl
    have hmem := Lineage.mem_of_mem_interfaces hin (hfirst ▸ mem_of_find? hi)
    have hshared := bounded_sharedSettings fun j hj => (h j (hmem j hj)).1.timeouts
    refine hshared.merge ?_
    rw [hcollects.timeouts]
    exact hmethod.timeouts

end Catalog

end ClientTraits
