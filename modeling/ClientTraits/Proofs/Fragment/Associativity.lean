import ClientTraits.Proofs.Fragment.NormalForm

/-!
# When brackets matter

With one request among the operands all brackets give the same (`Bracketing`). With several of them
they may not: the payload of an earlier request gives way to that of a later one, but the header for
its content type stays if some merge has made one before. `merge_assoc_iff` says exactly when three
fragments may be bracketed either way.

## Proof shape

The headers of a merge are its own payload's header and then those of its operands, up to an outer
`distinctBy` (`headers_merge_append`). So three fragments bracketed to the right have the headers of
all operands behind those of the final payload. Bracketed to the left they have those of the
payload of the first two in between, and all other fields are the same.
-/

namespace ClientTraits

namespace Fragment

variable {a b c : Fragment} {m : Call}

/-! ### Headers of a merge -/

/-- The header of a payload has the name of every header of a payload. -/
theorem name_mem_map_payloadHeaders {p q : Option Payload} {x : Header}
    (hx : x ∈ payloadHeaders p) (hq : payloadHeaders q ≠ []) :
    x.name ∈ (payloadHeaders q).map Header.name := by
  have hname : ∀ {r : Option Payload} {y : Header}, y ∈ payloadHeaders r →
      y.name = Header.contentTypeName := by
    intro r y hy
    obtain ⟨_, -, hp⟩ := Option.bind_eq_some_iff.mp (Option.mem_toList.mp hy)
    obtain ⟨_, -, rfl⟩ := Option.map_eq_some_iff.mp hp
    rfl
  obtain ⟨y, hy⟩ := List.exists_mem_of_ne_nil _ hq
  rw [hname hx, ← hname hy]
  exact List.mem_map_of_mem hy

/-- A request that comes out of a merge has its payload's header and then those of the operands. -/
theorem headers_of_merge_eq_call (h : a.merge b = call m) :
    m.headers = distinctBy Header.name (payloadHeaders m.payload ++ (a.headers ++ b.headers)) := by
  have hjoin : ∀ p left right, joinHeaders p left right =
      distinctBy Header.name (payloadHeaders p ++ (left ++ right)) := by
    intro p left right
    rw [← List.append_assoc]
    rfl
  rw [← hjoin]
  cases a with
  | empty =>
      cases b with
      | empty => cases h
      | shared r => cases h
      | call r => cases h; rfl
  | shared l =>
      cases b with
      | empty => cases h
      | shared r => cases h
      | call r => cases h; rfl
  | call l =>
      cases b with
      | empty =>
          cases h
          rw [hjoin, headers, List.append_nil]
          exact hjoin l.payload [] l.headers
      | shared r => cases h; rfl
      | call r => cases h; rfl

/-- A merge describes a request if an operand does. -/
theorem isCall_merge (a b : Fragment) : (a.merge b).isCall = (a.isCall || b.isCall) := by
  cases a <;> cases b <;> rfl

theorem ofPayload_of_not_isCall {f : Fragment} (h : f.isCall = false) : f.ofPayload = [] := by
  cases f with
  | empty => rfl
  | shared s => rfl
  | call c => cases h

theorem exists_eq_call {f : Fragment} (h : f.isCall = true) : ∃ m, f = call m := by
  cases f with
  | empty => cases h
  | shared s => cases h
  | call m => exact ⟨m, rfl⟩

/-- The headers of a merge count as its payload's header and then those of the operands. -/
theorem headers_merge_append (a b : Fragment) (outer : List Header) :
    distinctBy Header.name (outer ++ (a.merge b).headers) =
      distinctBy Header.name (outer ++ ((a.merge b).ofPayload ++ (a.headers ++ b.headers))) := by
  cases hcall : (a.merge b).isCall with
  | true =>
      obtain ⟨m, hm⟩ := exists_eq_call hcall
      rw [hm, headers, headers_of_merge_eq_call hm]
      exact distinctBy_append_distinctBy outer _
  | false =>
      have hoperands : a.isCall = false ∧ b.isCall = false := by
        rw [← Bool.or_eq_false_iff, ← isCall_merge, hcall]
      rw [ofPayload_of_not_isCall hcall, List.nil_append]
      apply headers_merge
      · rw [ofPayload_of_not_isCall hoperands.1]
        exact fun x hx => absurd hx List.not_mem_nil
      · rw [ofPayload_of_not_isCall hoperands.2]
        exact fun x hx => absurd hx List.not_mem_nil

/-! ### Three operands -/

/-- The payload of a merge is that of its right operand, if that is a request. -/
theorem ofPayload_merge_of_isCall (a : Fragment) (h : b.isCall = true) :
    (a.merge b).ofPayload = b.ofPayload := by
  obtain ⟨m, rfl⟩ := exists_eq_call h
  cases a <;> rfl

/-- Otherwise it is that of its left operand. -/
theorem ofPayload_merge_of_not_isCall (a : Fragment) (h : b.isCall = false) :
    (a.merge b).ofPayload = a.ofPayload := by
  cases b with
  | empty => cases a <;> rfl
  | shared r => cases a <;> rfl
  | call r => cases h

/-- Bracketed to the left, the payload of the first two operands leaves its header. -/
theorem headers_of_merge_merge_eq_call (h : (a.merge b).merge c = call m) :
    m.headers = distinctBy Header.name (payloadHeaders m.payload ++
      ((a.merge b).ofPayload ++ (a.headers ++ b.headers ++ c.headers))) := by
  calc m.headers
      = distinctBy Header.name (payloadHeaders m.payload ++ ((a.merge b).headers ++ c.headers)) :=
        headers_of_merge_eq_call h
    _ = distinctBy Header.name (payloadHeaders m.payload ++ (a.merge b).headers ++ c.headers) := by
        rw [List.append_assoc]
    _ = distinctBy Header.name (payloadHeaders m.payload ++
          ((a.merge b).ofPayload ++ (a.headers ++ b.headers)) ++ c.headers) :=
        distinctBy_append_congr (headers_merge_append a b _) rfl
    _ = _ := by simp only [List.append_assoc]

/-- Bracketed to the right, only the final payload has a header of its own. -/
theorem headers_of_merge_merge_right_eq_call (h : a.merge (b.merge c) = call m) :
    m.headers = distinctBy Header.name (payloadHeaders m.payload ++
      (a.headers ++ b.headers ++ c.headers)) := by
  have hown : ∀ x ∈ (b.merge c).ofPayload,
      x.name ∈ (payloadHeaders m.payload ++ a.headers).map Header.name := by
    intro x hx
    cases hcall : (b.merge c).isCall with
    | true =>
        rw [← ofPayload_merge_of_isCall a hcall, h] at hx
        exact List.mem_map_of_mem (List.mem_append_left _ hx)
    | false =>
        rw [ofPayload_of_not_isCall hcall] at hx
        exact absurd hx List.not_mem_nil
  calc m.headers
      = distinctBy Header.name (payloadHeaders m.payload ++ (a.headers ++ (b.merge c).headers)) :=
        headers_of_merge_eq_call h
    _ = distinctBy Header.name (payloadHeaders m.payload ++ a.headers ++ (b.merge c).headers) := by
        rw [List.append_assoc]
    _ = distinctBy Header.name (payloadHeaders m.payload ++ a.headers ++
          ((b.merge c).ofPayload ++ (b.headers ++ c.headers))) := headers_merge_append b c _
    _ = distinctBy Header.name (payloadHeaders m.payload ++ a.headers ++ (b.merge c).ofPayload ++
          (b.headers ++ c.headers)) := by rw [List.append_assoc _ (b.merge c).ofPayload]
    _ = distinctBy Header.name (payloadHeaders m.payload ++ a.headers ++
          (b.headers ++ c.headers)) :=
        distinctBy_append_congr (distinctBy_append_of_forall_mem hown) rfl
    _ = _ := by simp only [List.append_assoc]

/-- Brackets change nothing but the headers. -/
theorem merge_merge_eq_iff_headers {l r : Call} (hl : (a.merge b).merge c = call l)
    (hr : a.merge (b.merge c) = call r) :
    l.payload = r.payload ∧ (l = r ↔ l.headers = r.headers) := by
  have htarget : (call l).target? = (call r).target? := by
    rw [← hl, ← hr, target?_merge, target?_merge, target?_merge, target?_merge, Option.or_assoc]
  have htimeouts : l.timeouts = r.timeouts := by
    change (call l).timeouts = (call r).timeouts
    rw [← hl, ← hr, timeouts_merge, timeouts_merge, timeouts_merge, timeouts_merge,
      Timeouts.merge_assoc]
  have hquery : l.query = r.query := by
    change (call l).query = (call r).query
    rw [← hl, ← hr, query_merge, query_merge, query_merge, query_merge, List.append_assoc]
  have hattributes : l.attributes = r.attributes := by
    have hdistinct : distinctAttributes (call l).attributes =
        distinctAttributes (call r).attributes := by
      rw [← hl, ← hr, attributes_merge, attributes_merge]
      calc distinctAttributes ((a.merge b).attributes ++ c.attributes)
          = distinctAttributes ((a.attributes ++ b.attributes) ++ c.attributes) :=
            distinctBy_append_congr (attributes_merge a b) rfl
        _ = distinctAttributes (a.attributes ++ (b.attributes ++ c.attributes)) := by
            rw [List.append_assoc]
        _ = distinctAttributes (a.attributes ++ (b.merge c).attributes) :=
            distinctBy_append_congr rfl (attributes_merge b c).symm
    exact (merge_isNormal hl).attributes.symm.trans
      (hdistinct.trans (merge_isNormal hr).attributes)
  simp only [target?, Option.some.injEq, Target.mk.injEq] at htarget
  obtain ⟨hurl, hverb, hpayload⟩ := htarget
  refine ⟨hpayload, fun h => by rw [h], fun h => ?_⟩
  cases l
  exact Call.mk.injEq .. ▸ ⟨hurl, hverb, hpayload, h, hquery, hattributes, htimeouts⟩

theorem empty_merge_of_not_isCall {f : Fragment} (h : f.isCall = false) : empty.merge f = f :=
  empty_merge_eq_self_iff.mpr fun _ hf => by rw [hf] at h; cases h

/-- Without a request among them, operands may be bracketed in any way. -/
theorem merge_assoc_of_not_isCall (ha : a.isCall = false) (hb : b.isCall = false)
    (hc : c.isCall = false) : (a.merge b).merge c = a.merge (b.merge c) := by
  have hjoin : ∀ x y z : List Header,
      joinHeaders none (joinHeaders none x y) z = joinHeaders none x (joinHeaders none y z) := by
    intro x y z
    change distinctBy _ (distinctBy _ (x ++ y) ++ z) = distinctBy _ (x ++ distinctBy _ (y ++ z))
    rw [distinctBy_distinctBy_append, distinctBy_append_distinctBy, List.append_assoc]
  cases a with
  | call l => cases ha
  | empty =>
      have hbc : (b.merge c).isCall = false := by rw [isCall_merge, hb, hc]; rfl
      rw [empty_merge_of_not_isCall hb, empty_merge_of_not_isCall hbc]
  | shared l =>
      cases b with
      | call s => cases hb
      | empty => rw [empty_merge_of_not_isCall hc]; rfl
      | shared s =>
          cases c with
          | call r => cases hc
          | empty => rfl
          | shared r => simp only [merge, hjoin, Timeouts.merge_assoc]

/-- A payload's header in the middle makes no difference if and only if there is one before it, or
the same header stands right behind it. -/
theorem distinctBy_payloadHeaders_append_iff {p q : Option Payload} {rest : List Header} :
    distinctBy Header.name (payloadHeaders p ++ (payloadHeaders q ++ rest)) =
        distinctBy Header.name (payloadHeaders p ++ rest) ↔
      (payloadHeaders p = [] → ∀ h ∈ payloadHeaders q, rest.head? = some h) := by
  by_cases hp : payloadHeaders p = []
  · rw [hp, List.nil_append, List.nil_append]
    cases hq : q.bind Payload.header? with
    | none => simp [payloadHeaders, hq]
    | some x => simp [payloadHeaders, hq, distinctBy_cons_eq_iff]
  · refine iff_of_true ?_ fun h => absurd h hp
    rw [← List.append_assoc]
    exact distinctBy_append_congr
      (distinctBy_append_of_forall_mem fun x hx => name_mem_map_payloadHeaders hx hp) rfl

/-! ### Either way -/

/-- **When brackets do not matter.** Three fragments may be bracketed either way unless the last of
them is a request without a content type, the first two give one with a content type, and the first
of all declared headers is not the header for it. -/
theorem merge_assoc_iff (a b c : Fragment) :
    (a.merge b).merge c = a.merge (b.merge c) ↔
      (c.isCall = true → c.ofPayload = [] → ∀ h ∈ (a.merge b).ofPayload,
        (a.headers ++ b.headers ++ c.headers).head? = some h) := by
  cases hcall : ((a.merge b).merge c).isCall with
  | false =>
      have hoperands : (a.isCall = false ∧ b.isCall = false) ∧ c.isCall = false := by
        rw [← Bool.or_eq_false_iff, ← Bool.or_eq_false_iff, ← isCall_merge, ← isCall_merge, hcall]
      refine iff_of_true
        (merge_assoc_of_not_isCall hoperands.1.1 hoperands.1.2 hoperands.2) fun hc => ?_
      rw [hoperands.2] at hc
      cases hc
  | true =>
      have hcall' : (a.merge (b.merge c)).isCall = true := by
        rw [← hcall, isCall_merge, isCall_merge, isCall_merge, isCall_merge, Bool.or_assoc]
      obtain ⟨l, hl⟩ := exists_eq_call hcall
      obtain ⟨r, hr⟩ := exists_eq_call hcall'
      obtain ⟨hpayload, heq⟩ := merge_merge_eq_iff_headers hl hr
      have hlpayload : payloadHeaders l.payload = ((a.merge b).merge c).ofPayload := by rw [hl]; rfl
      -- The payload of the first two operands, if there is any.
      obtain ⟨q, hq⟩ : ∃ q, (a.merge b).ofPayload = payloadHeaders q := by
        cases a.merge b with
        | empty => exact ⟨none, rfl⟩
        | shared s => exact ⟨none, rfl⟩
        | call m => exact ⟨m.payload, rfl⟩
      rw [hl, hr, call.injEq, heq, headers_of_merge_merge_eq_call hl,
        headers_of_merge_merge_right_eq_call hr, ← hpayload, hq,
        distinctBy_payloadHeaders_append_iff, hlpayload]
      cases hc : c.isCall with
      | true => rw [ofPayload_merge_of_isCall _ hc]; simp
      | false =>
          -- The final payload is that of the first two operands itself.
          rw [ofPayload_merge_of_not_isCall _ hc, hq]
          refine iff_of_true (fun hnil h hmem => ?_) fun h => nomatch h
          rw [hnil] at hmem
          exact absurd hmem List.not_mem_nil

/-- A request without a payload. -/
def pingCall : Call where
  url := [.fixed "/ping"]
  verb := .get
  payload := none
  headers := []
  query := []
  attributes := []
  timeouts := .unset

/-- The payload of the upload does not count any more, but its header stays in one of the two. -/
theorem merge_uploadCall_pingCall_ne :
    ((shared ⟨[], .unset⟩).merge (call Bracketing.uploadCall)).merge (call pingCall) ≠
      (shared ⟨[], .unset⟩).merge ((call Bracketing.uploadCall).merge (call pingCall)) := by
  decide

end Fragment

end ClientTraits
