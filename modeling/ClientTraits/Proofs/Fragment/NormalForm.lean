import ClientTraits.Declaration.Endpoint
import ClientTraits.Proofs.Fragment.Bracketing

/-!
# Normal forms

A request is in normal form if no two of its headers and no two of its attributes share a name, and
if the content type of its payload is its first header (`Call.NormalForm`). This says without any
function of the library what `Call.IsNormal` says through the headers and attributes that take
effect (`Call.isNormal_iff`). So it describes

* every request that comes out of a merge, and
* the fixed points of a merge with no settings, on either side.
-/

namespace ClientTraits

/-- No two headers and no two attributes share a name, and the content type of the payload comes
first. -/
structure Call.NormalForm (c : Call) : Prop where
  headers_distinct : (c.headers.map Header.name).Nodup
  attributes_distinct : (c.attributes.map ContextAttribute.name).Nodup
  contentType_first : ∀ p t, c.payload = some p → p.contentType = some t →
    ∃ rest, c.headers = .contentType t :: rest

namespace Call

variable {c : Call}

/-- A content type that comes first is the only header of its name. -/
theorem NormalForm.only_contentType (h : c.NormalForm) {p : Payload} {t : String}
    (hp : c.payload = some p) (ht : p.contentType = some t) :
    ∃ rest, c.headers = .contentType t :: rest ∧ ∀ x ∈ rest, x.name ≠ Header.contentTypeName := by
  obtain ⟨rest, hrest⟩ := h.contentType_first p t hp ht
  have hdistinct := h.headers_distinct
  rw [hrest, List.map_cons, List.nodup_cons] at hdistinct
  refine ⟨rest, hrest, fun x hx hname => hdistinct.1 ?_⟩
  rw [List.mem_map]
  exact ⟨x, hx, hname⟩

theorem effectiveHeaders_eq (c : Call) :
    c.effectiveHeaders = distinctBy Header.name (payloadHeaders c.payload ++ c.headers) := by
  rw [effectiveHeaders, joinHeaders, List.append_nil]
  rfl

/-- The headers take effect as they are if and only if they have different names and the content
type comes first. -/
theorem effectiveHeaders_eq_self_iff :
    c.effectiveHeaders = c.headers ↔ (c.headers.map Header.name).Nodup ∧
      ∀ p t, c.payload = some p → p.contentType = some t →
        ∃ rest, c.headers = .contentType t :: rest := by
  rw [effectiveHeaders_eq]
  constructor
  · intro h
    refine ⟨?_, fun p t hp ht => ?_⟩
    · rw [← h]
      exact nodup_map_distinctBy _
    · have hfirst : payloadHeaders c.payload = [.contentType t] := by
        rw [hp, payloadHeaders, Option.bind_some, Payload.header?, ht]
        rfl
      rw [hfirst, List.singleton_append, distinctBy_cons] at h
      exact ⟨_, h.symm⟩
  · intro h
    obtain ⟨hdistinct, hfirst⟩ := h
    cases hcontent : c.payload.bind Payload.header? with
    | none =>
        rw [payloadHeaders, hcontent]
        exact distinctBy_eq_self_iff.mpr hdistinct
    | some x =>
        -- The payload's header stands in front of the headers already.
        obtain ⟨p, hp, hx⟩ := Option.bind_eq_some_iff.mp hcontent
        obtain ⟨t, ht, rfl⟩ := Option.map_eq_some_iff.mp hx
        obtain ⟨rest, hrest⟩ := hfirst p t hp ht
        rw [payloadHeaders, hcontent, Option.toList_some, List.singleton_append,
          distinctBy_cons_eq_iff.mpr (by rw [hrest, List.head?_cons])]
        exact distinctBy_eq_self_iff.mpr hdistinct

/-- The two descriptions of normal forms agree. -/
theorem isNormal_iff : c.IsNormal ↔ c.NormalForm := by
  constructor
  · intro h
    obtain ⟨hdistinct, hfirst⟩ := effectiveHeaders_eq_self_iff.mp h.headers
    exact ⟨hdistinct, distinctBy_eq_self_iff.mp h.attributes, hfirst⟩
  · intro h
    exact ⟨effectiveHeaders_eq_self_iff.mpr ⟨h.headers_distinct, h.contentType_first⟩,
      distinctBy_eq_self_iff.mpr h.attributes_distinct⟩

end Call

namespace Fragment

/-- No settings on either side: the request comes back as it takes effect. -/
theorem empty_apply (c : Call) :
    empty.apply c =
      { c with headers := c.effectiveHeaders, attributes := c.effectiveAttributes } := by
  rw [apply, timeouts, Timeouts.unset_merge]
  rfl

/-- It does not matter on which side there are no settings. -/
theorem empty_merge_eq_merge_empty (x : Fragment) : empty.merge x = x.merge empty := by
  cases x <;> rfl

/-- The fixed points of a merge with no settings are the normal forms. -/
theorem empty_merge_eq_self_iff {x : Fragment} :
    empty.merge x = x ↔ ∀ c, x = call c → c.NormalForm := by
  cases x with
  | empty => exact iff_of_true rfl fun _ h => nomatch h
  | shared s => exact iff_of_true rfl fun _ h => nomatch h
  | call c =>
      have hfields : empty.apply c = c ↔ c.IsNormal := by
        rw [empty_apply]
        constructor
        · intro h
          exact ⟨congrArg Call.headers h, congrArg Call.attributes h⟩
        · intro h
          rw [h.headers, h.attributes]
      simp only [merge, call.injEq, forall_eq', hfields, Call.isNormal_iff]

/-- A merge is a fixed point. -/
theorem empty_merge_merge (a b : Fragment) : empty.merge (a.merge b) = a.merge b :=
  empty_merge_eq_self_iff.mpr fun _ h => Call.isNormal_iff.mp (merge_isNormal h)

/-- **Merges are in normal form.** A request that comes out of a merge has different names for its
headers and for its attributes, the content type of its payload as its first header and the only
one of that name, and an endpoint takes over both lists. A merge with no settings leaves a merge as
it is; and it leaves any fragment as it is, on either side, if that is no request or one in normal
form. -/
theorem merge_normalForm (a b x : Fragment) :
    (∀ c, a.merge b = call c →
      (c.headers.map Header.name).Nodup ∧ (c.attributes.map ContextAttribute.name).Nodup ∧
      (∀ p t, c.payload = some p → p.contentType = some t →
        ∃ rest, c.headers = .contentType t :: rest ∧
          ∀ h ∈ rest, h.name ≠ Header.contentTypeName) ∧
      c.effectiveHeaders = c.headers ∧ c.effectiveAttributes = c.attributes ∧
      ∀ signature, (Endpoint.ofCall signature c).headers = c.headers ∧
        (Endpoint.ofCall signature c).attributes = c.attributes) ∧
    (empty.merge (a.merge b) = a.merge b ∧ (a.merge b).merge empty = a.merge b) ∧
    empty.merge x = x.merge empty ∧
    (empty.merge x = x ↔ ∀ c, x = call c → c.NormalForm) := by
  refine ⟨?_, ⟨empty_merge_merge a b, ?_⟩, empty_merge_eq_merge_empty x, empty_merge_eq_self_iff⟩
  · intro c hc
    have hnormal := merge_isNormal hc
    have hform := Call.isNormal_iff.mp hnormal
    exact ⟨hform.headers_distinct, hform.attributes_distinct,
      fun p t hp ht => hform.only_contentType hp ht, hnormal.headers, hnormal.attributes,
      fun signature => ⟨hnormal.headers, hnormal.attributes⟩⟩
  · rw [← empty_merge_eq_merge_empty, empty_merge_merge]

/-- Both operands declare a content type of their own; that of the payload comes first and alone. -/
theorem merge_normalForm_uploadCall :
    ∃ c, (shared ⟨[⟨"Content-Type", "text/xml"⟩], .unset⟩).merge (call Bracketing.uploadCall) =
        call c ∧
      (c.headers.map Header.name).Nodup ∧
      (∃ rest, c.headers = .contentType "application/json" :: rest ∧
        ∀ h ∈ rest, h.name ≠ Header.contentTypeName) ∧
      empty.merge (call c) = call c ∧ (call c).merge empty = call c := by
  obtain ⟨hform, ⟨hleft, hright⟩, -⟩ := merge_normalForm
    (shared ⟨[⟨"Content-Type", "text/xml"⟩], .unset⟩) (call Bracketing.uploadCall) empty
  obtain ⟨hheaders, -, hfirst, -⟩ := hform _ rfl
  exact ⟨_, rfl, hheaders, hfirst _ _ rfl rfl, hleft, hright⟩

end Fragment

end ClientTraits
