import ClientTraits.Fragment.Basic
import ClientTraits.Proofs.Fragment.Distinct

/-!
# What a merge does to each field

`Fragment.merge` is written by cases on the scopes of its operands. Field by field it follows one
rule for all scopes:

* URL, verb and payload go together as the target of a fragment, and the right target wins
  (`target?_merge`);
* so does each time that is set (`timeouts_merge`);
* query items are appended (`query_merge`);
* attributes are appended up to an outer `distinctAttributes` (`attributes_merge`);
* headers are appended up to an outer `distinctBy` behind headers that have the names of all
  payload headers (`headers_merge`). The condition is what makes the rule hold for every scope: a
  merge may put a payload's header in front, or may have put it there before.

A merge that describes a request has effective headers and attributes (`merge_isNormal`).
-/

namespace ClientTraits

/-! ### Joined headers -/

/-- The content type of a payload as a list of headers. -/
def payloadHeaders (payload : Option Payload) : List Header :=
  (payload.bind Payload.header?).toList

/-- Joined headers count as the joined lists behind headers that have the payload's name. -/
theorem distinctBy_append_joinHeaders {payload : Option Payload} {outer : List Header}
    (h : ∀ x ∈ payloadHeaders payload, x.name ∈ outer.map Header.name)
    (left right : List Header) :
    distinctBy Header.name (outer ++ joinHeaders payload left right) =
      distinctBy Header.name (outer ++ (left ++ right)) := by
  have hsplit : outer ++ (payloadHeaders payload ++ left ++ right) =
      (outer ++ payloadHeaders payload) ++ (left ++ right) := by
    simp only [List.append_assoc]
  rw [joinHeaders, distinctBy_append_distinctBy]
  change distinctBy Header.name (outer ++ (payloadHeaders payload ++ left ++ right)) = _
  rw [hsplit]
  exact distinctBy_append_congr (distinctBy_append_of_forall_mem h) rfl

/-- Joined headers do not change when they are joined again with the same payload. -/
theorem joinHeaders_nil_joinHeaders (payload : Option Payload) (left right : List Header) :
    joinHeaders payload [] (joinHeaders payload left right) = joinHeaders payload left right := by
  have hown : ∀ x ∈ payloadHeaders payload, x.name ∈ (payloadHeaders payload).map Header.name :=
    fun x hx => List.mem_map_of_mem hx
  calc joinHeaders payload [] (joinHeaders payload left right)
      = distinctBy Header.name
          (payloadHeaders payload ++ joinHeaders payload left right) := by
        rw [joinHeaders, List.append_nil]
        rfl
    _ = distinctBy Header.name (payloadHeaders payload ++ (left ++ right)) :=
        distinctBy_append_joinHeaders hown left right
    _ = joinHeaders payload left right := by
        rw [← List.append_assoc]
        rfl

/-! ### Normal form -/

/-- The headers and the attributes are those that take effect. -/
structure Call.IsNormal (c : Call) : Prop where
  headers : c.effectiveHeaders = c.headers
  attributes : c.effectiveAttributes = c.attributes

namespace Fragment

/-- Settings of a method under others are in normal form. -/
theorem apply_isNormal (left : Fragment) (c : Call) : (left.apply c).IsNormal where
  headers := joinHeaders_nil_joinHeaders c.payload left.headers c.headers
  attributes := distinctBy_distinctBy _

/-- A merge that describes a request is in normal form. -/
theorem merge_isNormal {a b : Fragment} {c : Call} (h : a.merge b = call c) : c.IsNormal := by
  cases a with
  | empty =>
      cases b with
      | call r => cases h; exact apply_isNormal empty r
      | empty => cases h
      | shared r => cases h
  | shared l =>
      cases b with
      | call r => cases h; exact apply_isNormal (shared l) r
      | empty => cases h
      | shared r => cases h
  | call l =>
      cases b with
      | empty => cases h; exact apply_isNormal empty l
      | call r => cases h; exact apply_isNormal (call l) r
      -- Here the left operand's payload comes first, which no `apply` gives.
      | shared r =>
          cases h
          exact ⟨joinHeaders_nil_joinHeaders l.payload l.headers r.headers,
            distinctBy_distinctBy l.attributes⟩

/-! ### The rules by field -/

/-- What a request is sent to and what it carries. -/
structure Target where
  url : List Template.Part
  verb : Verb
  payload : Option Payload

/-- The target of a fragment. -/
def target? : Fragment → Option Target
  | call c => some ⟨c.url, c.verb, c.payload⟩
  | _ => none

/-- The header that the payload of a fragment brings along. -/
def ofPayload : Fragment → List Header
  | call c => payloadHeaders c.payload
  | _ => []

/-- Only a request has a target, query items and attributes. -/
theorem of_not_isCall {f : Fragment} (h : f.isCall = false) :
    f.target? = none ∧ f.query = [] ∧ f.attributes = [] := by
  cases f with
  | empty => exact ⟨rfl, rfl, rfl⟩
  | shared s => exact ⟨rfl, rfl, rfl⟩
  | call c => cases h

/-- The right target wins. -/
theorem target?_merge (a b : Fragment) : (a.merge b).target? = b.target?.or a.target? := by
  cases a <;> cases b <;> rfl

/-- A payload header of a merge is one of an operand. -/
theorem mem_ofPayload_merge {a b : Fragment} {x : Header} (h : x ∈ (a.merge b).ofPayload) :
    x ∈ a.ofPayload ∨ x ∈ b.ofPayload := by
  cases b with
  | empty => left; cases a <;> exact h
  | shared r => left; cases a <;> exact h
  | call r => right; cases a <;> exact h

/-- Each time that is set on the right wins. -/
theorem timeouts_merge (a b : Fragment) :
    (a.merge b).timeouts = a.timeouts.merge b.timeouts := by
  cases a <;> cases b <;>
    simp only [merge, apply, timeouts, Timeouts.merge_unset, Timeouts.unset_merge]

/-- All query items count. -/
theorem query_merge (a b : Fragment) : (a.merge b).query = a.query ++ b.query := by
  cases a <;> cases b <;> simp only [merge, apply, query, List.nil_append, List.append_nil]

/-- The first attribute of each name counts, in a merge as in the appended lists. -/
theorem attributes_merge (a b : Fragment) :
    distinctAttributes (a.merge b).attributes =
      distinctAttributes (a.attributes ++ b.attributes) := by
  cases a <;> cases b <;>
    simp only [merge, apply, attributes, Call.effectiveAttributes, distinctAttributes,
      distinctBy_distinctBy, List.nil_append, List.append_nil]

/-- The first header of each name counts, in a merge as in the appended lists, once the names of
the payload headers are taken. -/
theorem headers_merge {a b : Fragment} {outer : List Header}
    (ha : ∀ x ∈ a.ofPayload, x.name ∈ outer.map Header.name)
    (hb : ∀ x ∈ b.ofPayload, x.name ∈ outer.map Header.name) :
    distinctBy Header.name (outer ++ (a.merge b).headers) =
      distinctBy Header.name (outer ++ (a.headers ++ b.headers)) := by
  have hnone : ∀ x ∈ payloadHeaders none, x.name ∈ outer.map Header.name :=
    fun x hx => absurd hx List.not_mem_nil
  -- What differs is whose payload is joined in front, if any.
  cases a with
  | empty =>
      cases b with
      | empty => rfl
      | shared r => rfl
      | call r => exact distinctBy_append_joinHeaders hb [] r.headers
  | shared l =>
      cases b with
      | empty => rw [headers, headers, List.append_nil]; rfl
      | shared r => exact distinctBy_append_joinHeaders hnone l.headers r.headers
      | call r => exact distinctBy_append_joinHeaders hb l.headers r.headers
  | call l =>
      cases b with
      | empty =>
          rw [headers, headers, List.append_nil]
          exact distinctBy_append_joinHeaders ha [] l.headers
      | shared r => exact distinctBy_append_joinHeaders ha l.headers r.headers
      | call r => exact distinctBy_append_joinHeaders hb l.headers r.headers

end Fragment

end ClientTraits
