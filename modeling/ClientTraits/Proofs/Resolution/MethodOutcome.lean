import Mathlib.Data.List.Sort
import Mathlib.Data.Prod.Lex
import ClientTraits.Proofs.Resolution.Collect

/-!
# What becomes of a method

A method has a defect or it has settings. `Method.Outcome` says which, with one rule for each
possibility, and without the functions that `Method.call` is made of:

* a method that is not asynchronous, or that has no route, is defective;
* of several routes one counts, the first of those with the least place (`IsForemost`);
* the first placeholder of its template that no parameter claims is a defect
  (`Method.LacksFirst`);
* if there is none, the settings are what is declared (`Method.Specifies`).

`Method.value_call_iff` says that these rules and the function agree. So nothing in a route that
does not count makes a difference, not even a placeholder that could not be bound.

## Proof shape

Each part of the settings is determined by what the rules say about it (`Method.Specifies.unique`).
It remains that `Method.call` comes to an outcome by the rules (`Method.outcome_call`).
-/

namespace ClientTraits

/-! ### The route that counts -/

/-- The verbs that have attributes of their own, the one that counts most first. -/
def Verb.ranking : List Verb :=
  [.get, .post, .put, .patch, .delete, .head, .options]

/-- The place of a route: that of its verb if it was declared by the attribute of the verb. All
other routes share the place behind these. -/
def Route.place (r : Route) : Nat :=
  if r.shorthand then Verb.ranking.idxOf r.verb else Verb.ranking.length

theorem Route.rank_eq_place (r : Route) : r.rank = r.place := by
  unfold rank place
  split
  · cases r.verb <;> simp [verbRank, Verb.ranking]
  · rfl

/-- The route stands in front of all others, by its place and then by its position. -/
def IsForemost (routes : List Route) (r : Route) : Prop :=
  ∃ k : Nat, routes[k]? = some r ∧
    ∀ (j : Nat) (s : Route), routes[j]? = some s → toLex (r.place, k) ≤ toLex (s.place, j)

/-- There is only one such route. -/
theorem IsForemost.unique {routes : List Route} {r s : Route} (hr : IsForemost routes r)
    (hs : IsForemost routes s) : r = s := by
  obtain ⟨k, hk, hle⟩ := hr
  obtain ⟨j, hj, hge⟩ := hs
  have heq : toLex (r.place, k) = toLex (s.place, j) := le_antisymm (hle j s hj) (hge k r hk)
  have hkj : k = j := congrArg Prod.snd (toLex.injective heq)
  subst hkj
  exact Option.some.inj (hk.symm.trans hj)

theorem leastRoute_eq_none_iff {routes : List Route} : leastRoute routes = none ↔ routes = [] := by
  cases routes with
  | nil => simp [leastRoute]
  | cons r rest =>
      rw [leastRoute]
      cases leastRoute rest with
      | none => simp
      | some s =>
          dsimp only
          split <;> simp

theorem isForemost_of_leastRoute {routes : List Route} {r : Route}
    (h : leastRoute routes = some r) : IsForemost routes r := by
  induction routes generalizing r with
  | nil => cases h
  | cons s rest ih =>
      rw [leastRoute] at h
      cases hrest : leastRoute rest with
      | none =>
          have hnil : rest = [] := leastRoute_eq_none_iff.mp hrest
          subst hnil
          rw [hrest] at h
          cases h
          refine ⟨0, rfl, fun j t ht => ?_⟩
          cases j with
          | zero => cases ht; exact le_refl _
          | succ j => cases ht
      | some t =>
          obtain ⟨k, hk, hle⟩ := ih hrest
          rw [hrest] at h
          simp only [Route.rank_eq_place, Prod.Lex.toLex_le_toLex] at h hle
          by_cases hplace : s.place ≤ t.place
          · -- An earlier route wins against a later one of the same place.
            rw [if_pos hplace] at h
            cases h
            refine ⟨0, rfl, fun j u hu => ?_⟩
            rw [Prod.Lex.toLex_le_toLex]
            cases j with
            | zero => cases hu; exact Or.inr ⟨rfl, le_refl 0⟩
            | succ j =>
                have hu' := hle j u hu
                dsimp only
                omega
          · rw [if_neg hplace] at h
            cases h
            refine ⟨k + 1, hk, fun j u hu => ?_⟩
            rw [Prod.Lex.toLex_le_toLex]
            cases j with
            | zero => cases hu; exact Or.inl (Nat.lt_of_not_le hplace)
            | succ j =>
                have hu' := hle j u hu
                dsimp only
                omega

/-- The route that is chosen is the foremost one. -/
theorem leastRoute_eq_some_iff {routes : List Route} {r : Route} :
    leastRoute routes = some r ↔ IsForemost routes r := by
  constructor
  · exact isForemost_of_leastRoute
  · intro h
    cases hleast : leastRoute routes with
    | none =>
        obtain ⟨k, hk, -⟩ := h
        rw [leastRoute_eq_none_iff.mp hleast] at hk
        cases hk
    | some s => rw [(isForemost_of_leastRoute hleast).unique h]

/-! ### Templates -/

namespace Template

/-- The part of a token: literal text as it is, a placeholder with an argument that answers it. -/
def Token.IsFilledBy (answers : String → Argument → Prop) : Token → Part → Prop
  | literal text, part => part = .fixed (String.ofList text)
  | placeholder name, part =>
    ∃ a, answers (String.ofList name) a ∧ part = .ofPlaceholder (String.ofList name) a

/-- If no placeholder has two answers, no token has two parts. -/
theorem eq_of_isFilledBy {answers : String → Argument → Prop}
    (hanswers : ∀ name a b, answers name a → answers name b → a = b) {tokens : List Token}
    {parts parts' : List Part} (h : List.Forall₂ (Token.IsFilledBy answers) tokens parts)
    (h' : List.Forall₂ (Token.IsFilledBy answers) tokens parts') : parts = parts' := by
  induction h generalizing parts' with
  | nil => cases h'; rfl
  | @cons token part tokens parts hpart _ ih =>
      cases h' with
      | @cons _ part' _ parts' hpart' hrest =>
          rw [ih hrest]
          cases token with
          | literal text => rw [hpart, hpart']
          | placeholder name =>
              obtain ⟨a, ha, rfl⟩ := hpart
              obtain ⟨b, hb, rfl⟩ := hpart'
              rw [hanswers _ a b ha hb]

section Pure

variable {resolve : String → Option Argument}

theorem bindTokens_literal (text : List Char) (rest : List Token) :
    bindTokens (m := Id) (fun name => pure (resolve name)) (.literal text :: rest) =
      (bindTokens (m := Id) (fun name => pure (resolve name)) rest).map
        (.fixed (String.ofList text) :: ·) := by
  rw [bindTokens]
  simp only [bind, pure]
  cases bindTokens (m := Id) (fun name => resolve name) rest <;> rfl

theorem bindTokens_unanswered {name : List Char} (rest : List Token)
    (h : resolve (String.ofList name) = none) :
    bindTokens (m := Id) (fun name => pure (resolve name)) (.placeholder name :: rest) =
      .error ⟨String.ofList name⟩ := by
  rw [bindTokens]
  simp only [bind, pure, h]

theorem bindTokens_answered {name : List Char} {a : Argument} (rest : List Token)
    (h : resolve (String.ofList name) = some a) :
    bindTokens (m := Id) (fun name => pure (resolve name)) (.placeholder name :: rest) =
      (bindTokens (m := Id) (fun name => pure (resolve name)) rest).map
        (.ofPlaceholder (String.ofList name) a :: ·) := by
  rw [bindTokens]
  simp only [bind, pure, h]
  cases bindTokens (m := Id) (fun name => resolve name) rest <;> rfl

/-- A template is compiled to its tokens with the answers of the resolver, or fails at the first
placeholder without an answer. -/
theorem compile_spec (resolve : String → Option Argument) (template : String) :
    match compile resolve template with
    | .ok parts =>
      List.Forall₂ (Token.IsFilledBy fun name a => resolve name = some a) (scan template) parts
    | .error e =>
      (placeholders (scan template)).find? (fun name => (resolve name).isNone) = some e.name := by
  show match bindTokens (m := Id) (fun name => pure (resolve name)) (scan template) with
    | .ok parts => _
    | .error e => _
  generalize scan template = tokens
  induction tokens with
  | nil => exact List.Forall₂.nil
  | cons token rest ih =>
      cases token with
      | literal text =>
          rw [bindTokens_literal]
          cases hrest : bindTokens (m := Id) (fun name => pure (resolve name)) rest with
          | ok parts => rw [hrest] at ih; exact .cons rfl ih
          | error e => rw [hrest] at ih; exact ih
      | placeholder name =>
          cases hname : resolve (String.ofList name) with
          | none =>
              rw [bindTokens_unanswered rest hname]
              exact List.find?_cons_of_pos (by simp [hname])
          | some a =>
              rw [bindTokens_answered rest hname]
              cases hrest : bindTokens (m := Id) (fun name => pure (resolve name)) rest with
              | ok parts => rw [hrest] at ih; exact .cons ⟨a, hname, rfl⟩ ih
              | error e =>
                  rw [hrest] at ih
                  exact (List.find?_cons_of_neg (by simp [hname])).trans ih

theorem exists_answer_of_isFilledBy {answers : String → Argument → Prop} {tokens : List Token}
    {parts : List Part} (h : List.Forall₂ (Token.IsFilledBy answers) tokens parts) {name : String}
    (hname : name ∈ placeholders tokens) : ∃ a, answers name a := by
  induction h with
  | nil => cases hname
  | @cons token part tokens parts hpart _ ih =>
      cases token with
      | literal text => exact ih hname
      | placeholder chars =>
          rcases List.mem_cons.mp hname with rfl | hname
          · obtain ⟨a, ha, -⟩ := hpart
            exact ⟨a, ha⟩
          · exact ih hname

/-- The template cannot be compiled if and only if it has a placeholder without an answer, and the
first one is the error. -/
theorem compile_eq_error_iff {template : String} {e : Unbound} :
    compile resolve template = .error e ↔
      (placeholders (scan template)).find? (fun name => (resolve name).isNone) = some e.name := by
  have hspec := compile_spec resolve template
  cases hcompile : compile resolve template with
  | error e' =>
      rw [hcompile] at hspec
      rw [hspec, Option.some.injEq, Except.error.injEq]
      exact ⟨fun h => h ▸ rfl, fun h => by cases e; cases e'; cases h; rfl⟩
  | ok parts =>
      rw [hcompile] at hspec
      constructor
      · intro h
        cases h
      · intro h
        obtain ⟨a, ha⟩ := exists_answer_of_isFilledBy hspec (List.mem_of_find?_eq_some h)
        have hnone := List.find?_some h
        simp [ha] at hnone

theorem compile_eq_ok_iff {template : String} {parts : List Part} :
    compile resolve template = .ok parts ↔
      List.Forall₂ (Token.IsFilledBy fun name a => resolve name = some a) (scan template)
        parts := by
  have hspec := compile_spec resolve template
  cases hcompile : compile resolve template with
  | error e =>
      rw [hcompile] at hspec
      constructor
      · intro h
        cases h
      · intro h
        obtain ⟨a, ha⟩ := exists_answer_of_isFilledBy h (List.mem_of_find?_eq_some hspec)
        have hnone := List.find?_some hspec
        simp [ha] at hnone
  | ok parts' =>
      rw [hcompile] at hspec
      constructor
      · intro h
        cases h
        exact hspec
      · intro h
        have heq := eq_of_isFilledBy (fun _ _ _ ha hb => Option.some.inj (ha.symm.trans hb)) hspec h
        rw [heq]

end Pure

end Template

/-! ### Parameters -/

/-- The name that a binding gives a parameter's value: the explicit one unless that is missing or
empty, else the parameter's own. -/
def Binding.Names (b : Binding) (own name : String) : Prop :=
  b.name = some name ∧ name ≠ "" ∨ (b.name = none ∨ b.name = some "") ∧ name = own

theorem Binding.names_iff {b : Binding} {own name : String} :
    b.Names own name ↔ name = b.resolve own := by
  unfold Names resolve
  cases b.name with
  | none => simp only [reduceCtorEq, false_and, true_or, true_and, false_or]
  | some explicit =>
      simp only [reduceCtorEq, false_or, Option.some.injEq, String.isEmpty_iff]
      by_cases h : explicit = ""
      · subst h
        rw [if_pos rfl, eq_self, true_and, or_iff_right]
        rintro ⟨rfl, hne⟩
        exact hne rfl
      · rw [if_neg h, eq_false h, false_and, or_false, eq_comm (a := name)]
        exact and_iff_left_of_imp fun heq => heq ▸ h

namespace Method

variable {m : Method}

/-- A parameter is renamed to the placeholder or has its name. -/
def Claims (m : Method) (placeholder : String) : Prop :=
  ∃ p ∈ m.params, p.rename = some placeholder ∨ p.name = placeholder

/-- The placeholder is the first one of the template that no parameter claims. -/
def LacksFirst (m : Method) (template placeholder : String) : Prop :=
  ∃ before after, Template.placeholders (Template.scan template) = before ++ placeholder :: after ∧
    (∀ name ∈ before, m.Claims name) ∧ ¬ m.Claims placeholder

/-- The entries are the parameters with a mark, in their order and under their names. What a
parameter is renamed to does not matter. -/
structure Lists (m : Method) (mark : Param → Option Binding) (entries : List (String × Argument)) :
    Prop where
  ordered : entries.Pairwise fun e f => e.2.index < f.2.index
  mem_iff : ∀ name a, (name, a) ∈ entries ↔ ∃ p b, m.params[a.index]? = some p ∧
    p.name = a.name ∧ mark p = some b ∧ b.Names p.name name

/-- The payload is the first parameter with a mark for it; an empty content type is dropped. -/
structure Sends (m : Method) (p : Param) (mark : PayloadMark) (payload : Payload) : Prop where
  param : m.params[payload.argument.index]? = some p
  name : p.name = payload.argument.name
  marked : p.payload = some mark
  first : ∀ (k : Nat) (q : Param), k < payload.argument.index → m.params[k]? = some q →
    q.payload = none
  contentType : ∀ t, payload.contentType = some t ↔ mark.contentType = some t ∧ t ≠ ""

/-- The payload of a method, or none if no parameter is marked. -/
def IsPayload (m : Method) : Option Payload → Prop
  | none => ∀ p ∈ m.params, p.payload = none
  | some payload => ∃ p mark, m.Sends p mark payload

/-- The settings are what is declared on the method, with one of its routes. -/
structure Specifies (m : Method) (route : Route) (c : Call) : Prop where
  verb : c.verb = route.verb
  url : List.Forall₂ (Template.Token.IsFilledBy m.Answers) (Template.scan route.template) c.url
  payload : m.IsPayload c.payload
  headers : c.headers = m.headers
  query : ∃ entries, m.Lists Param.query entries ∧
    c.query = m.queries ++ entries.map fun (name, a) => .bound name a
  attributes : m.Lists Param.context (c.attributes.map fun x => (x.name, x.argument))
  timeouts : c.timeouts = m.timeouts

/-- What becomes of a method. -/
inductive Outcome (m : Method) : Except Defect Call → Prop
  | notAsync (hasync : m.isAsync = false) : Outcome m (.error .notAsync)
  | missingRoute (hasync : m.isAsync = true) (hroutes : m.routes = []) :
      Outcome m (.error .missingRoute)
  | unboundPlaceholder {route : Route} {name : String} (hasync : m.isAsync = true)
      (hroute : IsForemost m.routes route) (hlacks : m.LacksFirst route.template name) :
      Outcome m (.error (.unboundPlaceholder name))
  | settings {route : Route} {c : Call} (hasync : m.isAsync = true)
      (hroute : IsForemost m.routes route) (hspecifies : m.Specifies route c) : Outcome m (.ok c)

/-! ### Each part of the settings is determined -/

theorem Lists.unique {mark : Param → Option Binding} {entries entries' : List (String × Argument)}
    (h : m.Lists mark entries) (h' : m.Lists mark entries') : entries = entries' := by
  -- Entries stand in the strict order of positions, which leaves no choice for a given set.
  have hasymm : Std.Asymm fun e f : String × Argument => e.2.index < f.2.index :=
    ⟨fun _ _ => Nat.lt_asymm⟩
  refine h.ordered.eq_of_mem_iff h'.ordered fun e => ?_
  rw [h.mem_iff e.1 e.2, h'.mem_iff e.1 e.2]

theorem Sends.unique {p q : Param} {mark mark' : PayloadMark} {payload payload' : Payload}
    (h : m.Sends p mark payload) (h' : m.Sends q mark' payload') : payload = payload' := by
  have hindex : payload.argument.index = payload'.argument.index := by
    rcases Nat.lt_trichotomy payload.argument.index payload'.argument.index with hlt | heq | hlt
    · have hnone := h'.first _ p hlt h.param
      rw [h.marked] at hnone
      cases hnone
    · exact heq
    · have hnone := h.first _ q hlt h'.param
      rw [h'.marked] at hnone
      cases hnone
  have hp : p = q := by
    have hparam := h.param
    rw [hindex, h'.param] at hparam
    exact (Option.some.inj hparam).symm
  subst hp
  have hmark : mark = mark' := Option.some.inj (h.marked.symm.trans h'.marked)
  subst hmark
  have htype : payload.contentType = payload'.contentType := by
    ext t
    rw [h.contentType, h'.contentType]
  have hname : payload.argument.name = payload'.argument.name := h.name.symm.trans h'.name
  obtain ⟨⟨_, _⟩, _⟩ := payload
  obtain ⟨⟨_, _⟩, _⟩ := payload'
  simp_all

theorem IsPayload.unique {o o' : Option Payload} (h : m.IsPayload o) (h' : m.IsPayload o') :
    o = o' := by
  cases o with
  | none =>
      cases o' with
      | none => rfl
      | some payload =>
          obtain ⟨p, mark, hsends⟩ := h'
          have hnone := h p (List.mem_of_getElem? hsends.param)
          rw [hsends.marked] at hnone
          cases hnone
  | some payload =>
      obtain ⟨p, mark, hsends⟩ := h
      cases o' with
      | none =>
          have hnone := h' p (List.mem_of_getElem? hsends.param)
          rw [hsends.marked] at hnone
          cases hnone
      | some payload' =>
          obtain ⟨q, mark', hsends'⟩ := h'
          rw [hsends.unique hsends']

theorem Answers.unique {placeholder : String} {a b : Argument} (ha : m.Answers placeholder a)
    (hb : m.Answers placeholder b) : a = b := by
  rw [← argument?_eq_some_iff] at ha hb
  exact Option.some.inj (ha.symm.trans hb)

theorem Specifies.unique {route : Route} {c c' : Call} (h : m.Specifies route c)
    (h' : m.Specifies route c') : c = c' := by
  have hurl : c.url = c'.url :=
    Template.eq_of_isFilledBy (fun _ _ _ ha hb => ha.unique hb) h.url h'.url
  have hquery : c.query = c'.query := by
    obtain ⟨entries, hentries, hc⟩ := h.query
    obtain ⟨entries', hentries', hc'⟩ := h'.query
    rw [hc, hc', hentries.unique hentries']
  have hattributes : c.attributes = c'.attributes := by
    refine List.map_injective_iff.mpr (fun x y hxy => ?_) (h.attributes.unique h'.attributes)
    cases x
    cases y
    cases hxy
    rfl
  cases c
  cases c'
  simp only [Call.mk.injEq]
  exact ⟨hurl, h.verb.trans h'.verb.symm, h.payload.unique h'.payload,
    h.headers.trans h'.headers.symm, hquery, hattributes, h.timeouts.trans h'.timeouts.symm⟩

/-! ### What a method is collected to -/

theorem forall_mem_arguments {property : Param → Prop} :
    (∀ x ∈ m.arguments, property x.1) ↔ ∀ p ∈ m.params, property p := by
  constructor
  · intro h p hp
    obtain ⟨k, hk⟩ := List.mem_iff_getElem?.mp hp
    exact h (p, ⟨k, p.name⟩) (mem_arguments.mpr ⟨hk, rfl⟩)
  · intro h x hx
    exact h x.1 (List.mem_of_getElem? (mem_arguments.mp hx).1)

/-- A placeholder without an argument is one that no parameter claims. -/
theorem argument?_eq_none_iff {placeholder : String} :
    m.argument? placeholder = none ↔ ¬ m.Claims placeholder := by
  have hrename : m.arguments.find? (fun x => x.1.rename == some placeholder) = none ↔
      ∀ p ∈ m.params, p.rename ≠ some placeholder := by
    rw [List.find?_eq_none, ← forall_mem_arguments]
    simp only [beq_iff_eq, ne_eq]
  have hname : m.arguments.find? (fun x => x.1.name == placeholder) = none ↔
      ∀ p ∈ m.params, p.name ≠ placeholder := by
    rw [List.find?_eq_none, ← forall_mem_arguments]
    simp only [beq_iff_eq, ne_eq]
  have hclaims : ¬ m.Claims placeholder ↔
      (∀ p ∈ m.params, p.rename ≠ some placeholder) ∧ ∀ p ∈ m.params, p.name ≠ placeholder := by
    simp only [Claims, not_exists, not_and, not_or, forall_and, ne_eq]
  rw [hclaims, ← hrename, ← hname, argument?]
  cases m.arguments.find? fun x => x.1.rename == some placeholder with
  | some found => simp
  | none => simp

/-- Arguments stand in the order of their positions. -/
theorem pairwise_index_arguments (m : Method) :
    m.arguments.Pairwise fun x y => x.2.index < y.2.index := by
  have hget : ∀ (k : Nat) (hk : k < m.arguments.length), m.arguments[k].2.index = k := by
    intro k hk
    have harg := m.getElem?_arguments k
    rw [List.getElem?_eq_getElem hk] at harg
    obtain ⟨p, -, hp⟩ := Option.map_eq_some_iff.mp harg.symm
    rw [← hp]
  rw [List.pairwise_iff_getElem]
  intro j k hj hk hjk
  rw [hget j hj, hget k hk]
  exact hjk

/-- The parameters with a mark, as they are collected. -/
theorem lists_filterMap_arguments (m : Method) (mark : Param → Option Binding) :
    m.Lists mark (m.arguments.filterMap fun (p, a) =>
      (mark p).map fun b => (b.resolve p.name, a)) where
  ordered := by
    rw [List.pairwise_filterMap]
    refine m.pairwise_index_arguments.imp fun {x y} hxy e he f hf => ?_
    obtain ⟨_, -, rfl⟩ := Option.map_eq_some_iff.mp he
    obtain ⟨_, -, rfl⟩ := Option.map_eq_some_iff.mp hf
    exact hxy
  mem_iff := by
    intro name a
    rw [List.mem_filterMap]
    constructor
    · intro h
      obtain ⟨⟨p, _⟩, hmem, hentry⟩ := h
      obtain ⟨b, hb, heq⟩ := Option.map_eq_some_iff.mp hentry
      cases heq
      obtain ⟨hp, hname⟩ := mem_arguments.mp hmem
      exact ⟨p, b, hp, hname, hb, Binding.names_iff.mpr rfl⟩
    · intro h
      obtain ⟨p, b, hp, hname, hb, hnames⟩ := h
      refine ⟨(p, a), mem_arguments.mpr ⟨hp, hname⟩, ?_⟩
      simp only [Binding.names_iff.mp hnames, hb, Option.map_some]

theorem query_queryItems (m : Method) :
    ∃ entries, m.Lists Param.query entries ∧
      m.queryItems = m.queries ++ entries.map fun (name, a) => .bound name a := by
  refine ⟨_, m.lists_filterMap_arguments Param.query, ?_⟩
  rw [queryItems, List.map_filterMap]
  simp only [Option.map_map]
  rfl

theorem lists_contextAttributes (m : Method) :
    m.Lists Param.context (m.contextAttributes.map fun x => (x.name, x.argument)) := by
  have hlists := m.lists_filterMap_arguments Param.context
  rw [contextAttributes, List.map_filterMap]
  simp only [Option.map_map]
  exact hlists

theorem contentType_marked (a : Argument) (contentType : Option String) (t : String) :
    (Payload.marked a contentType).contentType = some t ↔ contentType = some t ∧ t ≠ "" := by
  rw [Payload.marked, Option.filter_eq_some_iff]
  simp

theorem isPayload_chosenPayload (m : Method) : m.IsPayload m.chosenPayload.value := by
  rw [value_chosenPayload, payloadMarks, List.head?_filterMap]
  cases hfirst : m.arguments.findSome? fun (p, a) => p.payload.map fun mark => (a, mark) with
  | none =>
      rw [List.findSome?_eq_none_iff] at hfirst
      simp only [Option.map_eq_none_iff] at hfirst
      exact forall_mem_arguments.mp hfirst
  | some found =>
      obtain ⟨a, mark⟩ := found
      obtain ⟨before, ⟨p, _⟩, after, harguments, hfound, hbefore⟩ :=
        List.findSome?_eq_some_iff.mp hfirst
      obtain ⟨_, hmark, heq⟩ := Option.map_eq_some_iff.mp hfound
      cases heq
      have hordered := m.pairwise_index_arguments
      rw [harguments, List.pairwise_append, List.pairwise_cons] at hordered
      have hmem : (p, a) ∈ m.arguments := by
        rw [harguments]
        exact List.mem_append_right _ List.mem_cons_self
      obtain ⟨hp, hname⟩ := mem_arguments.mp hmem
      refine ⟨p, mark, hp, hname, hmark, fun k q hk hq => ?_, contentType_marked a _⟩
      -- An earlier parameter is an earlier argument, and none of these has a mark.
      have hearlier : (q, ⟨k, q.name⟩) ∈ m.arguments := mem_arguments.mpr ⟨hq, rfl⟩
      rw [harguments] at hearlier
      rcases List.mem_append.mp hearlier with hin | hin
      · exact Option.map_eq_none_iff.mp (hbefore _ hin)
      · rcases List.mem_cons.mp hin with heq | hin
        · cases heq
          exact absurd hk (Nat.lt_irrefl _)
        · exact absurd (hordered.2.1.1 _ hin) (Nat.lt_asymm hk)

theorem lacksFirst_iff {template placeholder : String} :
    m.LacksFirst template placeholder ↔
      (Template.placeholders (Template.scan template)).find?
        (fun name => (m.argument? name).isNone) = some placeholder := by
  have hclaims : ∀ name, (m.argument? name).isNone = true ↔ ¬ m.Claims name := fun name =>
    Option.isNone_iff_eq_none.trans argument?_eq_none_iff
  simp only [LacksFirst, List.find?_eq_some_iff_append, Bool.not_eq_true', hclaims,
    ← Bool.not_eq_true, not_not]
  constructor
  · rintro ⟨before, after, hnames, hbefore, hlacks⟩
    exact ⟨hlacks, before, after, hnames, hbefore⟩
  · rintro ⟨hlacks, before, after, hnames, hbefore⟩
    exact ⟨before, after, hnames, hbefore, hlacks⟩

theorem compile_argument?_iff {template : String} {parts : List Template.Part} :
    Template.compile m.argument? template = .ok parts ↔
      List.Forall₂ (Template.Token.IsFilledBy m.Answers) (Template.scan template) parts := by
  rw [Template.compile_eq_ok_iff]
  simp only [argument?_eq_some_iff]

/-- The settings that are collected are those that are declared. -/
theorem specifies_collected {route : Route} {url : List Template.Part}
    (hurl : Template.compile m.argument? route.template = .ok url) :
    m.Specifies route ⟨url, route.verb, m.chosenPayload.value, m.headers, m.queryItems,
      m.contextAttributes, m.timeouts⟩ where
  verb := rfl
  url := compile_argument?_iff.mp hurl
  payload := m.isPayload_chosenPayload
  headers := rfl
  query := m.query_queryItems
  attributes := m.lists_contextAttributes
  timeouts := rfl

theorem outcome_call (m : Method) : m.Outcome m.call.value := by
  cases hasync : m.isAsync with
  | false =>
      rw [value_call_of_not_isAsync hasync]
      exact .notAsync hasync
  | true =>
      cases hleast : leastRoute m.routes with
      | none =>
          rw [value_call_of_no_route hasync hleast]
          exact .missingRoute hasync (leastRoute_eq_none_iff.mp hleast)
      | some route =>
          have hroute : IsForemost m.routes route := leastRoute_eq_some_iff.mp hleast
          rw [value_call_of_route hasync hleast]
          cases hurl : Template.compile m.argument? route.template with
          | error unbound =>
              exact .unboundPlaceholder hasync hroute
                (lacksFirst_iff.mpr (Template.compile_eq_error_iff.mp hurl))
          | ok url => exact .settings hasync hroute (specifies_collected hurl)

/-- An outcome by the rules is the one that the function comes to. -/
theorem Outcome.value_call_eq {x : Except Defect Call} (h : m.Outcome x) : m.call.value = x := by
  cases h with
  | notAsync hasync => exact value_call_of_not_isAsync hasync
  | missingRoute hasync hroutes =>
      exact value_call_of_no_route hasync (leastRoute_eq_none_iff.mpr hroutes)
  | @unboundPlaceholder route name hasync hroute hlacks =>
      have hurl : Template.compile m.argument? route.template = .error ⟨name⟩ :=
        Template.compile_eq_error_iff.mpr (lacksFirst_iff.mp hlacks)
      rw [value_call_of_route hasync (leastRoute_eq_some_iff.mpr hroute), hurl]
  | @settings route c hasync hroute hspecifies =>
      have hurl : Template.compile m.argument? route.template = .ok c.url :=
        compile_argument?_iff.mpr hspecifies.url
      rw [value_call_of_route hasync (leastRoute_eq_some_iff.mpr hroute), hurl]
      exact congrArg Except.ok ((specifies_collected hurl).unique hspecifies)

/-- **What becomes of a method.** It is not asynchronous; or it has no route; or the route that
counts has a placeholder that no parameter claims, the first of which is the defect; or its settings
are what is declared on it and on that route. Other routes make no difference. -/
theorem value_call_iff (m : Method) :
    (∀ x, m.call.value = x ↔ m.Outcome x) ∧
      ∀ routes route, IsForemost m.routes route → IsForemost routes route →
        ({ m with routes := routes } : Method).call.value = m.call.value := by
  refine ⟨fun x => ⟨?_, Outcome.value_call_eq⟩, fun routes route hroute hroute' => ?_⟩
  · rintro rfl
    exact m.outcome_call
  · rcases Bool.eq_false_or_eq_true m.isAsync with hasync | hasync
    · rw [value_call_of_route hasync (leastRoute_eq_some_iff.mpr hroute),
        value_call_of_route (m := { m with routes := routes }) hasync
          (leastRoute_eq_some_iff.mpr hroute')]
      rfl
    · rw [value_call_of_not_isAsync hasync,
        value_call_of_not_isAsync (m := { m with routes := routes }) hasync]

/-- A method with several routes and marks. The first route could not be bound, but does not count;
of the two that are next to each other by their place, the first one counts. -/
def crowdedMethod : Method where
  name := "update"
  isAsync := true
  params :=
    [{ Param.plain "a" "u8" with rename := some "id", query := some ⟨some ""⟩ },
      { Param.plain "id" "u64" with context := some ⟨some "trace"⟩, payload := some ⟨some ""⟩ },
      ⟨"b", "Bytes", some "key", some ⟨some "q"⟩, some ⟨none⟩, some ⟨some "image/png"⟩⟩]
  routes := [⟨.get, "/:missing", false⟩, ⟨.put, "/items/:id/:b", true⟩, ⟨.put, "/:late", true⟩]
  headers := [⟨"Accept", "text/plain"⟩]
  queries := [.fixed "v" "2"]
  timeouts := .unset

theorem value_call_crowdedMethod :
    let counted : Route := ⟨.put, "/items/:id/:b", true⟩
    let c : Call :=
      { url := [.fixed "/items/", .bound "id" "id" ⟨0, "a"⟩, .fixed "/", .bound "b" "b" ⟨2, "b"⟩]
        verb := .put
        payload := some ⟨⟨1, "id"⟩, none⟩
        headers := [⟨"Accept", "text/plain"⟩]
        query := [.fixed "v" "2", .bound "a" ⟨0, "a"⟩, .bound "q" ⟨2, "b"⟩]
        attributes := [⟨"trace", ⟨1, "id"⟩⟩, ⟨"b", ⟨2, "b"⟩⟩]
        timeouts := .unset }
    IsForemost crowdedMethod.routes counted ∧ IsForemost [counted] counted ∧
      crowdedMethod.Outcome (.ok c) ∧
      ({ crowdedMethod with routes := [counted] } : Method).call.value =
        crowdedMethod.call.value := by
  intro counted c
  have hforemost : IsForemost crowdedMethod.routes counted :=
    leastRoute_eq_some_iff.mp (by decide)
  have halone : IsForemost [counted] counted := leastRoute_eq_some_iff.mp rfl
  obtain ⟨houtcome, hroutes⟩ := value_call_iff crowdedMethod
  exact ⟨hforemost, halone, (houtcome (.ok c)).mp (by decide +kernel),
    hroutes [counted] counted hforemost halone⟩

end Method

end ClientTraits
