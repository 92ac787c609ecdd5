import ClientTraits.Resolution.Collect

/-!
# What the settings of a method consist of

`Method.call` is read backwards here. The settings that it gives come from a route of the method
with the least rank (`Method.exists_collects`), and each reference in them goes to a parameter:

* the arguments of a method are its parameters by position (`Method.mem_arguments`);
* a placeholder is answered by the first parameter renamed to it, else by the first of that name
  (`Method.argument?_eq_some_iff`);
* a compiled template has the answers of its resolver and nothing else
  (`Template.of_mem_compile`).
-/

namespace ClientTraits

/-! ### Routes and the settings as a whole -/

/-- The chosen route is one of the routes. -/
theorem leastRoute_mem {routes : List Route} {r : Route} (h : leastRoute routes = some r) :
    r ∈ routes := by
  induction routes generalizing r with
  | nil => cases h
  | cons s rest ih =>
      rw [leastRoute] at h
      cases hrest : leastRoute rest with
      | none =>
          rw [hrest] at h
          cases h
          exact List.mem_cons_self
      | some t =>
          rw [hrest] at h
          dsimp only at h
          by_cases hrank : s.rank ≤ t.rank
          · rw [if_pos hrank] at h
            cases h
            exact List.mem_cons_self
          · rw [if_neg hrank] at h
            cases h
            exact List.mem_cons_of_mem s (ih hrest)

namespace Method

variable {m : Method}

theorem value_chosenRoute (m : Method) : m.chosenRoute.value = leastRoute m.routes := by
  rw [chosenRoute]
  cases leastRoute m.routes with
  | none => rfl
  | some route =>
      dsimp only
      split <;> rfl

/-- The payload is that of the first argument that is marked. -/
theorem value_chosenPayload (m : Method) :
    m.chosenPayload.value =
      m.payloadMarks.head?.map fun (argument, mark) => .marked argument mark.contentType := by
  rw [chosenPayload]
  cases m.payloadMarks with
  | nil => rfl
  | cons first extra =>
      dsimp only
      split <;> rfl

/-- What the settings of a method are, given the route that counts. -/
structure Collects (m : Method) (route : Route) (c : Call) : Prop where
  route_mem : route ∈ m.routes
  url : Template.compile m.argument? route.template = .ok c.url
  verb : c.verb = route.verb
  payload : c.payload = m.chosenPayload.value
  headers : c.headers = m.headers
  query : c.query = m.queryItems
  attributes : c.attributes = m.contextAttributes
  timeouts : c.timeouts = m.timeouts

theorem value_call_of_not_isAsync (hasync : m.isAsync = false) :
    m.call.value = .error .notAsync := by
  rw [call, hasync]
  rfl

theorem value_call_of_no_route (hasync : m.isAsync = true) (hroute : leastRoute m.routes = none) :
    m.call.value = .error .missingRoute := by
  rw [call, if_pos hasync, Logged.value_bind, value_chosenRoute, hroute]
  rfl

/-- With a route that counts, its template decides. -/
theorem value_call_of_route (hasync : m.isAsync = true) {route : Route}
    (hroute : leastRoute m.routes = some route) :
    m.call.value =
      match Template.compile m.argument? route.template with
      | .error unbound => .error (.unboundPlaceholder unbound.name)
      | .ok url =>
        .ok ⟨url, route.verb, m.chosenPayload.value, m.headers, m.queryItems, m.contextAttributes,
          m.timeouts⟩ := by
  rw [call, if_pos hasync, Logged.value_bind, value_chosenRoute, hroute]
  dsimp only
  cases Template.compile m.argument? route.template <;> rfl

/-- A method without a defect has the settings of the route that counts. -/
theorem exists_chosen_collects {c : Call} (h : m.call.value = .ok c) :
    ∃ route, leastRoute m.routes = some route ∧ m.Collects route c := by
  cases hasync : m.isAsync with
  | false =>
      rw [value_call_of_not_isAsync hasync] at h
      cases h
  | true =>
      cases hroute : leastRoute m.routes with
      | none =>
          rw [value_call_of_no_route hasync hroute] at h
          cases h
      | some route =>
          rw [value_call_of_route hasync hroute] at h
          cases hurl : Template.compile m.argument? route.template with
          | error unbound => rw [hurl] at h; cases h
          | ok url =>
              rw [hurl] at h
              cases h
              exact ⟨route, rfl, leastRoute_mem hroute, hurl, rfl, rfl, rfl, rfl, rfl, rfl⟩

/-- A method without a defect has the settings of one of its routes. -/
theorem exists_collects {c : Call} (h : m.call.value = .ok c) : ∃ route, m.Collects route c := by
  obtain ⟨route, -, hcollects⟩ := exists_chosen_collects h
  exact ⟨route, hcollects⟩

/-! ### Arguments -/

/-- The argument is a parameter of the method, under the parameter's own name. -/
def HasArgument (m : Method) (a : Argument) : Prop :=
  ∃ h : a.index < m.params.length, m.params[a.index].name = a.name

/-- The argument is the first parameter with a property. -/
def IsFirstArgument (m : Method) (property : Param → Prop) (a : Argument) : Prop :=
  ∃ h : a.index < m.params.length, m.params[a.index].name = a.name ∧
    property m.params[a.index] ∧ ∀ k (hk : k < a.index), ¬ property m.params[k]

/-- The argument is the first parameter that is renamed to a placeholder; if there is none, the
first parameter of that name. -/
def Answers (m : Method) (placeholder : String) (a : Argument) : Prop :=
  m.IsFirstArgument (fun p => p.rename = some placeholder) a ∨
    (∀ p ∈ m.params, p.rename ≠ some placeholder) ∧
      m.IsFirstArgument (fun p => p.name = placeholder) a

theorem IsFirstArgument.hasArgument {property : Param → Prop} {a : Argument}
    (h : m.IsFirstArgument property a) : m.HasArgument a := by
  obtain ⟨hlt, hname, -⟩ := h
  exact ⟨hlt, hname⟩

theorem Answers.hasArgument {placeholder : String} {a : Argument} (h : m.Answers placeholder a) :
    m.HasArgument a := by
  rcases h with h | ⟨-, h⟩
  · exact h.hasArgument
  · exact h.hasArgument

/-- The arguments are the parameters by position. -/
theorem getElem?_arguments (m : Method) (k : Nat) :
    m.arguments[k]? = (m.params[k]?).map fun p => (p, ⟨k, p.name⟩) := by
  rw [arguments, List.getElem?_map, List.getElem?_zipIdx, Option.map_map, Nat.zero_add]
  rfl

theorem mem_arguments {p : Param} {a : Argument} :
    (p, a) ∈ m.arguments ↔ m.params[a.index]? = some p ∧ p.name = a.name := by
  rw [List.mem_iff_getElem?]
  simp only [getElem?_arguments, Option.map_eq_some_iff, Prod.mk.injEq]
  constructor
  · intro h
    obtain ⟨k, q, hq, rfl, rfl⟩ := h
    exact ⟨hq, rfl⟩
  · intro h
    obtain ⟨hp, hname⟩ := h
    exact ⟨a.index, p, hp, rfl, by rw [hname]⟩

theorem hasArgument_of_mem {p : Param} {a : Argument} (h : (p, a) ∈ m.arguments) :
    m.HasArgument a := by
  obtain ⟨hp, hname⟩ := mem_arguments.mp h
  obtain ⟨hlt, rfl⟩ := List.getElem?_eq_some_iff.mp hp
  exact ⟨hlt, hname⟩

/-- Searching the arguments finds the first parameter with a property. -/
theorem find?_arguments (property : Param → Bool) {a : Argument} :
    (m.arguments.find? fun (p, _) => property p).map (·.2) = some a ↔
      m.IsFirstArgument (fun p => property p = true) a := by
  have hlength : m.arguments.length = m.params.length := by
    rw [arguments, List.length_map, List.length_zipIdx]
  have hget : ∀ k (hk : k < m.arguments.length) (hk' : k < m.params.length),
      m.arguments[k] = (m.params[k], ⟨k, m.params[k].name⟩) := by
    intro k hk hk'
    have hk? := m.getElem?_arguments k
    rw [List.getElem?_eq_getElem hk, List.getElem?_eq_getElem hk'] at hk?
    exact Option.some.inj hk?
  simp only [Option.map_eq_some_iff, List.find?_eq_some_iff_getElem]
  constructor
  · intro h
    obtain ⟨⟨p, _⟩, ⟨hp, k, hk, hkp, hbefore⟩, rfl⟩ := h
    have hlt : k < m.params.length := hlength ▸ hk
    rw [hget k hk hlt, Prod.mk.injEq] at hkp
    obtain ⟨rfl, rfl⟩ := hkp
    refine ⟨hlt, rfl, hp, fun j hj => ?_⟩
    have hj' := hbefore j hj
    rw [hget j _ (Nat.lt_trans hj hlt)] at hj'
    simpa using hj'
  · intro h
    obtain ⟨hlt, hname, hp, hbefore⟩ := h
    refine ⟨(m.params[a.index], a), ⟨hp, a.index, hlength ▸ hlt, ?_, fun j hj => ?_⟩, rfl⟩
    · rw [hget a.index _ hlt, Prod.mk.injEq, hname]
      exact ⟨rfl, rfl⟩
    · rw [hget j _ (Nat.lt_trans hj hlt)]
      simpa using hbefore j hj

/-- Which argument answers a placeholder. -/
theorem argument?_eq_some_iff {placeholder : String} {a : Argument} :
    m.argument? placeholder = some a ↔ m.Answers placeholder a := by
  have hrename := m.find?_arguments (fun p => p.rename == some placeholder) (a := a)
  have hname := m.find?_arguments (fun p => p.name == placeholder) (a := a)
  simp only [beq_iff_eq] at hrename hname
  rw [Answers, ← hrename, ← hname, argument?]
  cases hfind : m.arguments.find? fun (p, _) => p.rename == some placeholder with
  | some found =>
      -- Some parameter is renamed, so that the other possibility drops out.
      have hrenamed : ¬ ∀ p ∈ m.params, p.rename ≠ some placeholder := by
        intro hnone
        have hp := List.find?_some hfind
        rw [beq_iff_eq] at hp
        have hmem := (mem_arguments.mp (List.mem_of_find?_eq_some hfind)).1
        exact hnone _ (List.mem_of_getElem? hmem) hp
      simp [hrenamed]
  | none =>
      have hrenamed : ∀ p ∈ m.params, p.rename ≠ some placeholder := by
        intro p hp hp'
        obtain ⟨k, hk⟩ := List.mem_iff_getElem?.mp hp
        have hmem : (p, ⟨k, p.name⟩) ∈ m.arguments := mem_arguments.mpr ⟨hk, rfl⟩
        have hnot := List.find?_eq_none.mp hfind _ hmem
        exact hnot (beq_iff_eq.mpr hp')
      rw [Option.map_none, eq_false (Option.some_ne_none a).symm, false_or]
      exact (and_iff_right hrenamed).symm

/-- The payload is an argument of the method. -/
theorem hasArgument_of_chosenPayload {p : Payload} (h : m.chosenPayload.value = some p) :
    m.HasArgument p.argument := by
  rw [value_chosenPayload, Option.map_eq_some_iff] at h
  obtain ⟨⟨a, mark⟩, hhead, rfl⟩ := h
  obtain ⟨⟨q, b⟩, hb, hmark⟩ := List.mem_filterMap.mp (List.mem_of_mem_head? hhead)
  obtain ⟨_, -, hpair⟩ := Option.map_eq_some_iff.mp hmark
  cases hpair
  exact hasArgument_of_mem hb

/-- A query item with a reference that is not one of the method's own goes to an argument. -/
theorem hasArgument_of_mem_queryItems {name : String} {a : Argument}
    (h : .bound name a ∈ m.queryItems) : .bound name a ∈ m.queries ∨ m.HasArgument a := by
  rcases List.mem_append.mp h with h | h
  · exact Or.inl h
  · obtain ⟨⟨p, b⟩, hb, hbinding⟩ := List.mem_filterMap.mp h
    obtain ⟨_, -, hitem⟩ := Option.map_eq_some_iff.mp hbinding
    cases hitem
    exact Or.inr (hasArgument_of_mem hb)

/-- A context attribute is an argument of the method. -/
theorem hasArgument_of_mem_contextAttributes {x : ContextAttribute}
    (h : x ∈ m.contextAttributes) : m.HasArgument x.argument := by
  obtain ⟨⟨p, b⟩, hb, hbinding⟩ := List.mem_filterMap.mp h
  obtain ⟨_, -, rfl⟩ := Option.map_eq_some_iff.mp hbinding
  exact hasArgument_of_mem hb

end Method

/-! ### Compiled templates -/

namespace Template

/-- The parts of a token list under a resolver, by its first token. -/
theorem compile_step {resolve : String → Option Argument} {token : Token} {rest : List Token}
    {parts : List Part}
    (h : bindTokens (m := Id) (fun name => pure (resolve name)) (token :: rest) = .ok parts) :
    ∃ part more, parts = part :: more ∧
      bindTokens (m := Id) (fun name => pure (resolve name)) rest = .ok more ∧
      match token with
      | .literal text => part = .fixed (String.ofList text)
      | .placeholder name => ∃ a, resolve (String.ofList name) = some a ∧
          part = .ofPlaceholder (String.ofList name) a := by
  cases token with
  | literal text =>
      unfold bindTokens at h
      simp only [bind, pure] at h
      split at h
      · next more hmore =>
          cases h
          exact ⟨_, more, rfl, hmore, rfl⟩
      · cases h
  | placeholder name =>
      unfold bindTokens at h
      simp only [bind, pure] at h
      split at h
      · cases h
      · next a ha =>
          split at h
          · next more hmore =>
              cases h
              exact ⟨_, more, rfl, hmore, a, ha, rfl⟩
          · cases h

/-- A bound part of a compiled template is a placeholder with the answer of the resolver. -/
theorem of_mem_compile {resolve : String → Option Argument} {template : String}
    {parts : List Part} (h : compile resolve template = .ok parts) {name written : String}
    {a : Argument} (hpart : .bound name written a ∈ parts) :
    name = written ∧ resolve name = some a := by
  change bindTokens (m := Id) (fun name => pure (resolve name)) (scan template) = .ok parts at h
  generalize scan template = tokens at h
  induction tokens generalizing parts with
  | nil =>
      cases h
      exact absurd hpart List.not_mem_nil
  | cons token rest ih =>
      obtain ⟨part, more, rfl, hmore, htoken⟩ := compile_step h
      rcases List.mem_cons.mp hpart with rfl | hpart
      · cases token with
        | literal text => cases htoken
        | placeholder name' =>
            obtain ⟨_, ha, hbound⟩ := htoken
            cases hbound
            exact ⟨rfl, ha⟩
      · exact ih hpart hmore

end Template

end ClientTraits
