import ClientTraits.Proofs.Fragment.Merge

/-!
# Brackets do not matter for one method

A sequence of fragments can be merged in many ways, one for each way to put brackets around it
(`Bracketing`): from the left, from the right, or by any other binary tree. If exactly one of the
fragments describes a request, all these ways give the same request, `Call.under operands`
(`merged_eq_call_under`).

Two facts carry this. Each field of a merged tree is read off the operands alone, by one induction
per field from the rules in `Merge`; headers and attributes come out up to an outer `distinctBy`
only. That outer pass is there in the end, since the last merge leaves a request in normal form.
-/

namespace ClientTraits

/-! ### The last one that is set -/

/-- The last item that is set. -/
def lastSet {α : Type} (items : List (Option α)) : Option α :=
  items.reverse.findSome? id

@[simp] theorem lastSet_singleton {α : Type} (a : Option α) : lastSet [a] = a := by
  cases a <;> rfl

theorem lastSet_append {α : Type} (xs ys : List (Option α)) :
    lastSet (xs ++ ys) = (lastSet ys).or (lastSet xs) := by
  rw [lastSet, List.reverse_append, List.findSome?_append]
  rfl

/-- Items that are not set do not count. -/
theorem lastSet_map_filter {α β : Type} {p : α → Bool} {f : α → Option β} {items : List α}
    (h : ∀ a ∈ items, p a = false → f a = none) :
    lastSet (items.map f) = lastSet ((items.filter p).map f) := by
  induction items with
  | nil => rfl
  | cons a rest ih =>
      have hrest := ih fun b hb => h b (List.mem_cons_of_mem a hb)
      have hcons : ∀ l : List (Option β), lastSet (f a :: l) = (lastSet l).or (f a) := by
        intro l
        rw [← List.singleton_append, lastSet_append, lastSet_singleton]
      rw [List.map_cons, hcons, hrest]
      cases hp : p a with
      | true => rw [List.filter_cons_of_pos hp, List.map_cons, hcons]
      | false =>
          rw [List.filter_cons_of_neg (by simp [hp]), h a List.mem_cons_self hp, Option.or_none]

/-- Items without a result do not count. -/
theorem flatMap_filter_of_nil {α β : Type} {p : α → Bool} {f : α → List β} {items : List α}
    (h : ∀ a ∈ items, p a = false → f a = []) :
    items.flatMap f = (items.filter p).flatMap f := by
  induction items with
  | nil => rfl
  | cons a rest ih =>
      rw [List.flatMap_cons, ih fun b hb => h b (List.mem_cons_of_mem a hb)]
      cases hp : p a with
      | true => rw [List.filter_cons_of_pos hp, List.flatMap_cons]
      | false =>
          rw [List.filter_cons_of_neg (by simp [hp]), h a List.mem_cons_self hp, List.nil_append]

/-- Each time is the last one that is set. -/
def Timeouts.lastSet (timeouts : List Timeouts) : Timeouts where
  connect := ClientTraits.lastSet (timeouts.map Timeouts.connect)
  request := ClientTraits.lastSet (timeouts.map Timeouts.request)
  socket := ClientTraits.lastSet (timeouts.map Timeouts.socket)

theorem Timeouts.lastSet_append (xs ys : List Timeouts) :
    Timeouts.lastSet (xs ++ ys) = (Timeouts.lastSet xs).merge (Timeouts.lastSet ys) := by
  simp only [Timeouts.lastSet, Timeouts.merge, List.map_append, ClientTraits.lastSet_append,
    Option.orElse_eq_orElse, Option.orElse_eq_or]

/-- The request of `c` among `operands`: its own target and query items, the first header of each
name behind the content type of its payload, its first attribute of each name, and the last of
each time that is set. -/
def Call.under (c : Call) (operands : List Fragment) : Call where
  url := c.url
  verb := c.verb
  payload := c.payload
  headers := distinctBy Header.name (payloadHeaders c.payload ++ operands.flatMap Fragment.headers)
  query := c.query
  attributes := distinctBy ContextAttribute.name c.attributes
  timeouts := Timeouts.lastSet (operands.map Fragment.timeouts)

/-! ### Trees of merges -/

/-- A sequence of fragments with brackets around it, as a binary tree. -/
inductive Bracketing
  | leaf (f : Fragment)
  | node (left right : Bracketing)

namespace Bracketing

/-- The sequence without the brackets. -/
def operands : Bracketing → List Fragment
  | leaf f => [f]
  | node left right => left.operands ++ right.operands

/-- The sequence merged in the order that the brackets give. -/
def merged : Bracketing → Fragment
  | leaf f => f
  | node left right => left.merged.merge right.merged

/-! ### Fields of a merged tree -/

theorem merged_target? (t : Bracketing) :
    t.merged.target? = lastSet (t.operands.map Fragment.target?) := by
  induction t with
  | leaf f => rw [operands, List.map_singleton, lastSet_singleton]; rfl
  | node l r ihl ihr =>
      rw [merged, Fragment.target?_merge, ihl, ihr, operands, List.map_append, lastSet_append]

theorem merged_timeouts (t : Bracketing) :
    t.merged.timeouts = Timeouts.lastSet (t.operands.map Fragment.timeouts) := by
  induction t with
  | leaf f => simp only [merged, operands, Timeouts.lastSet, List.map_singleton, lastSet_singleton]
  | node l r ihl ihr =>
      rw [merged, Fragment.timeouts_merge, ihl, ihr, operands, List.map_append,
        Timeouts.lastSet_append]

theorem merged_query (t : Bracketing) : t.merged.query = t.operands.flatMap Fragment.query := by
  induction t with
  | leaf f => rw [operands, List.flatMap_singleton]; rfl
  | node l r ihl ihr =>
      rw [merged, Fragment.query_merge, ihl, ihr, operands, List.flatMap_append]

theorem merged_attributes (t : Bracketing) :
    distinctAttributes t.merged.attributes =
      distinctAttributes (t.operands.flatMap Fragment.attributes) := by
  induction t with
  | leaf f => rw [operands, List.flatMap_singleton]; rfl
  | node l r ihl ihr =>
      rw [merged, Fragment.attributes_merge, operands, List.flatMap_append]
      exact distinctBy_append_congr ihl ihr

/-- A payload header of a merged tree is one of an operand. -/
theorem mem_ofPayload_merged {t : Bracketing} {x : Header} (h : x ∈ t.merged.ofPayload) :
    ∃ f ∈ t.operands, x ∈ f.ofPayload := by
  induction t with
  | leaf f => exact ⟨f, List.mem_singleton_self f, h⟩
  | node l r ihl ihr =>
      rw [operands]
      rcases Fragment.mem_ofPayload_merge h with hl | hr
      · obtain ⟨f, hf, hx⟩ := ihl hl
        exact ⟨f, List.mem_append_left _ hf, hx⟩
      · obtain ⟨f, hf, hx⟩ := ihr hr
        exact ⟨f, List.mem_append_right _ hf, hx⟩

theorem merged_headers {t : Bracketing} {outer : List Header}
    (h : ∀ f ∈ t.operands, ∀ x ∈ f.ofPayload, x.name ∈ outer.map Header.name) :
    distinctBy Header.name (outer ++ t.merged.headers) =
      distinctBy Header.name (outer ++ t.operands.flatMap Fragment.headers) := by
  induction t generalizing outer with
  | leaf f => rw [operands, List.flatMap_singleton]; rfl
  | node l r ihl ihr =>
      have hl : ∀ f ∈ l.operands, ∀ x ∈ f.ofPayload, x.name ∈ outer.map Header.name :=
        fun f hf => h f (List.mem_append_left _ hf)
      have hr : ∀ f ∈ r.operands, ∀ x ∈ f.ofPayload, x.name ∈ outer.map Header.name :=
        fun f hf => h f (List.mem_append_right _ hf)
      have hlm : ∀ x ∈ l.merged.ofPayload, x.name ∈ outer.map Header.name := by
        intro x hx
        obtain ⟨f, hf, hxf⟩ := mem_ofPayload_merged hx
        exact hl f hf x hxf
      have hrm : ∀ x ∈ r.merged.ofPayload, x.name ∈ outer.map Header.name := by
        intro x hx
        obtain ⟨f, hf, hxf⟩ := mem_ofPayload_merged hx
        exact hr f hf x hxf
      -- The left operands' headers stand before the right merge, so they join `outer` there.
      have hr' : ∀ f ∈ r.operands, ∀ x ∈ f.ofPayload,
          x.name ∈ (outer ++ l.operands.flatMap Fragment.headers).map Header.name := by
        intro f hf x hx
        rw [List.map_append]
        exact List.mem_append_left _ (hr f hf x hx)
      rw [merged, Fragment.headers_merge hlm hrm, ← List.append_assoc,
        distinctBy_append_congr (ihl hl) rfl, ihr hr', List.append_assoc, operands,
        List.flatMap_append]

/-! ### One request among the operands -/

/-- A tree with two operands or more is a merge. -/
theorem exists_merge_eq_merged {t : Bracketing} (h : 2 ≤ t.operands.length) :
    ∃ a b : Fragment, t.merged = a.merge b := by
  cases t with
  | leaf f => exact absurd h (by simp [operands])
  | node l r => exact ⟨l.merged, r.merged, rfl⟩

variable {t : Bracketing} {c : Call}

/-- The only request among the operands gives the merged tree its target. -/
theorem exists_merged_eq_call (h : t.operands.filter Fragment.isCall = [.call c]) :
    ∃ m, t.merged = .call m ∧ m.url = c.url ∧ m.verb = c.verb ∧ m.payload = c.payload := by
  have htarget : t.merged.target? = some ⟨c.url, c.verb, c.payload⟩ := by
    rw [merged_target?, lastSet_map_filter fun f _ hf => (Fragment.of_not_isCall hf).1, h]
    rfl
  cases hm : t.merged with
  | empty => rw [hm] at htarget; cases htarget
  | shared s => rw [hm] at htarget; cases htarget
  | call m =>
      rw [hm, Fragment.target?, Option.some.injEq, Fragment.Target.mk.injEq] at htarget
      exact ⟨m, rfl, htarget⟩

/-- The only request among the operands brings all payload headers along. -/
theorem name_mem_payloadHeaders (h : t.operands.filter Fragment.isCall = [.call c])
    {f : Fragment} (hf : f ∈ t.operands) {x : Header} (hx : x ∈ f.ofPayload) :
    x.name ∈ (payloadHeaders c.payload).map Header.name := by
  cases f with
  | empty => exact absurd hx List.not_mem_nil
  | shared s => exact absurd hx List.not_mem_nil
  | call d =>
      have hd : Fragment.call d ∈ t.operands.filter Fragment.isCall :=
        List.mem_filter.mpr ⟨hf, rfl⟩
      rw [h, List.mem_singleton] at hd
      cases hd
      exact List.mem_map_of_mem hx

/-- **Any brackets give the same request.** If exactly one of two or more operands describes a
request, that request among the operands is what every bracketing of them merges to. -/
theorem merged_eq_call_under (t : Bracketing) (c : Call) (hlength : 2 ≤ t.operands.length)
    (hone : t.operands.filter Fragment.isCall = [.call c]) :
    t.merged = .call (c.under t.operands) := by
  obtain ⟨m, hm, hurl, hverb, hpayload⟩ := exists_merged_eq_call hone
  have hnormal : m.IsNormal := by
    obtain ⟨a, b, hab⟩ := exists_merge_eq_merged hlength
    exact Fragment.merge_isNormal (hab.symm.trans hm)
  have hheaders : m.headers = (c.under t.operands).headers := by
    have hmerged := merged_headers fun f hf x hx => name_mem_payloadHeaders hone hf hx
    rw [hm, ← hpayload] at hmerged
    rw [← hnormal.headers, Call.effectiveHeaders, joinHeaders, List.append_nil, Call.under,
      ← hpayload]
    exact hmerged
  have hquery : m.query = c.query := by
    have hmerged := merged_query t
    rw [hm, flatMap_filter_of_nil fun f _ hf => (Fragment.of_not_isCall hf).2.1, hone,
      List.flatMap_singleton] at hmerged
    exact hmerged
  have hattributes : m.attributes = (c.under t.operands).attributes := by
    have hmerged := merged_attributes t
    rw [hm, flatMap_filter_of_nil fun f _ hf => (Fragment.of_not_isCall hf).2.2, hone,
      List.flatMap_singleton] at hmerged
    exact hnormal.attributes.symm.trans hmerged
  have htimeouts : m.timeouts = (c.under t.operands).timeouts := by
    have hmerged := merged_timeouts t
    rw [hm] at hmerged
    exact hmerged
  rw [hm, Fragment.call.injEq]
  cases m
  exact Call.mk.injEq .. ▸ ⟨hurl, hverb, hpayload, hheaders, hquery, hattributes, htimeouts⟩

/-- A request with a payload, whose own headers name another content type. -/
def uploadCall : Call where
  url := [.fixed "/items"]
  verb := .post
  payload := some ⟨⟨0, "item"⟩, some "application/json"⟩
  headers := [⟨"Content-Type", "text/plain"⟩, ⟨"Accept", "b"⟩]
  query := [.fixed "v" "2"]
  attributes := [⟨"trace", ⟨1, "a"⟩⟩, ⟨"trace", ⟨2, "b"⟩⟩]
  timeouts := ⟨none, some 2500, none⟩

/-- Brackets around that request, nothing, and an interface on either side. -/
def uploadBracketing : Bracketing :=
  .node
    (.leaf (.shared ⟨[⟨"Accept", "a"⟩, ⟨"Content-Type", "text/xml"⟩], ⟨some 100, some 1, none⟩⟩))
    (.node (.node (.leaf .empty) (.leaf (.call uploadCall)))
      (.leaf (.shared ⟨[⟨"Accept", "c"⟩, ⟨"Via", "d"⟩], ⟨some 300, none, none⟩⟩)))

theorem merged_uploadBracketing :
    2 ≤ uploadBracketing.operands.length ∧
      uploadBracketing.operands.filter Fragment.isCall = [.call uploadCall] ∧
      uploadBracketing.merged = .call (uploadCall.under uploadBracketing.operands) ∧
      uploadCall.under uploadBracketing.operands =
        { uploadCall with
          headers := [⟨"Content-Type", "application/json"⟩, ⟨"Accept", "a"⟩, ⟨"Via", "d"⟩]
          attributes := [⟨"trace", ⟨1, "a"⟩⟩]
          timeouts := ⟨some 300, some 2500, none⟩ } :=
  ⟨by decide, by decide,
    merged_eq_call_under uploadBracketing uploadCall (by decide) (by decide), by decide⟩

end Bracketing

end ClientTraits
