import ClientTraits.Expansion

/-!
# What annotations can declare

A declaration that was read off a trait says less than any declaration could: query items of its
methods are fixed, no custom verb is spelled like a standard one, and no time is beyond the limit
(`Interface.Annotated`). Each helper attribute keeps to this, and an interface is built by going
over attributes one after another, so that it holds of the whole interface (`yields_ofTrait`).

Statements about a reader are statements about what it may yield (`Yields`): nothing is said about
texts that it refuses.
-/

namespace ClientTraits

open Rust

/-! ### What a computation yields -/

section Yields

variable {ε ε' α β : Type} {P Q : α → Prop} {R : β → Prop}

/-- The result has a property, if there is one. -/
def Yields (x : Except ε α) (P : α → Prop) : Prop :=
  ∀ a, x = .ok a → P a

theorem yields_pure {a : α} (h : P a) : Yields (pure a : Except ε α) P := by
  intro b hb
  cases hb
  exact h

theorem yields_error (e : ε) : Yields (.error e : Except ε α) P :=
  fun _ h => nomatch h

theorem yields_any (x : Except ε α) : Yields x fun _ => True :=
  fun _ _ => trivial

theorem yields_self (x : Except ε α) : Yields x fun a => x = .ok a :=
  fun _ h => h

theorem Yields.mono {x : Except ε α} (h : Yields x P) (hPQ : ∀ a, P a → Q a) : Yields x Q :=
  fun a ha => hPQ a (h a ha)

theorem bind_eq_ok_iff {x : Except ε α} {f : α → Except ε β} {b : β} :
    x >>= f = .ok b ↔ ∃ a, x = .ok a ∧ f a = .ok b := by
  cases x with
  | error e => exact iff_of_false (fun h => nomatch h) fun ⟨_, h, _⟩ => nomatch h
  | ok a =>
      constructor
      · intro h
        exact ⟨a, rfl, h⟩
      · rintro ⟨_, ha, h⟩
        cases ha
        exact h

theorem map_eq_ok_iff {x : Except ε α} {f : α → β} {b : β} :
    f <$> x = .ok b ↔ ∃ a, x = .ok a ∧ f a = b := by
  rw [map_eq_pure_bind, bind_eq_ok_iff]
  simp only [pure, Except.pure, Except.ok.injEq]

theorem Yields.bind {x : Except ε α} {f : α → Except ε β} (hx : Yields x P)
    (hf : ∀ a, P a → Yields (f a) R) : Yields (x >>= f) R := by
  intro b hb
  obtain ⟨a, ha, hb⟩ := bind_eq_ok_iff.mp hb
  exact hf a (hx a ha) b hb

theorem Yields.map {x : Except ε α} (h : Yields x P) {f : α → β} (hf : ∀ a, P a → R (f a)) :
    Yields (x.map f) R := by
  cases x with
  | error e => exact yields_error e
  | ok a => exact yields_pure (hf a (h a rfl))

theorem Yields.mapError {x : Except ε α} (h : Yields x P) (f : ε → ε') :
    Yields (x.mapError f) P := by
  cases x with
  | error e => exact yields_error (f e)
  | ok a => exact yields_pure (h a rfl)

/-- What each step keeps is kept by a whole fold. -/
theorem yields_foldlM {f : α → β → Except ε α} (step : ∀ a, P a → ∀ b, Yields (f a b) P)
    (items : List β) {start : α} (h : P start) : Yields (items.foldlM f start) P := by
  induction items generalizing start with
  | nil => exact yields_pure h
  | cons b rest ih =>
      rw [List.foldlM_cons]
      exact (step start h b).bind fun a ha => ih ha

theorem mapM_cons_eq_ok_iff {f : β → Except ε α} {b : β} {rest : List β} {results : List α} :
    (b :: rest).mapM f = .ok results ↔
      ∃ a more, f b = .ok a ∧ rest.mapM f = .ok more ∧ results = a :: more := by
  rw [List.mapM_cons]
  simp only [bind_eq_ok_iff]
  constructor
  · rintro ⟨a, ha, more, hmore, h⟩
    cases h
    exact ⟨a, more, ha, hmore, rfl⟩
  · rintro ⟨a, more, ha, hmore, rfl⟩
    exact ⟨a, ha, more, hmore, rfl⟩

theorem mapM_append_eq_ok_iff {f : β → Except ε α} {bs cs : List β} {results : List α} :
    (bs ++ cs).mapM f = .ok results ↔
      ∃ first second, bs.mapM f = .ok first ∧ cs.mapM f = .ok second ∧
        results = first ++ second := by
  rw [List.mapM_append]
  simp only [bind_eq_ok_iff]
  constructor
  · rintro ⟨first, hfirst, second, hsecond, h⟩
    cases h
    exact ⟨first, second, hfirst, hsecond, rfl⟩
  · rintro ⟨first, second, hfirst, hsecond, rfl⟩
    exact ⟨first, hfirst, second, hsecond, rfl⟩

/-- What each result has is had by all results of a traversal. -/
theorem yields_mapM {f : β → Except ε α} (h : ∀ b, Yields (f b) P) (items : List β) :
    Yields (items.mapM f) fun results => ∀ a ∈ results, P a := by
  induction items with
  | nil => exact yields_pure fun _ h => absurd h List.not_mem_nil
  | cons b rest ih =>
      rw [List.mapM_cons]
      refine (h b).bind fun a ha => ih.bind fun results hresults => yields_pure ?_
      exact List.forall_mem_cons.mpr ⟨ha, hresults⟩

end Yields

/-! ### Times -/

namespace Timeouts

theorem unset_bounded : unset.Bounded := by
  simp [Bounded, unset]

/-- Merging keeps within the limit. -/
theorem Bounded.merge {a b : Timeouts} (ha : a.Bounded) (hb : b.Bounded) : (a.merge b).Bounded := by
  have hor : ∀ x y : Option Nat, (∀ n ∈ x, n ≤ limit) → (∀ n ∈ y, n ≤ limit) →
      ∀ n ∈ (y <|> x), n ≤ limit := by
    intro x y hx hy n hn
    cases y with
    | none => exact hx n hn
    | some k => exact hy n hn
  exact ⟨hor _ _ ha.1 hb.1, hor _ _ ha.2.1 hb.2.1, hor _ _ ha.2.2 hb.2.2⟩

/-- A time from a signed number is within the limit if the number is. -/
theorem le_limit_of_mem_timeOfInt {n : Int} (hn : n ≤ limit) {k : Nat} (hk : k ∈ timeOfInt n) :
    k ≤ limit := by
  cases n with
  | ofNat m =>
      cases hk
      exact Int.ofNat_le.mp hn
  | negSucc m => cases hk

end Timeouts

namespace Arguments

/-- An integer argument is within the limit whatever signs stand in front of it. -/
theorem yields_integerValue (e : Expr) :
    Yields (integerValue e) fun n => n.natAbs ≤ Timeouts.limit := by
  fun_induction integerValue e with
  | case1 text n h => exact yields_pure h
  | case2 text n h => exact yields_error _
  | case3 e ih => exact ih.map fun n hn => by rwa [Int.natAbs_neg]
  | case4 e ih => exact ih
  | case5 e => exact yields_error _

/-- A time from an integer argument, or unset without one, is within the limit. -/
theorem yields_integer? (arguments : Arguments) (name : String) :
    Yields (arguments.integer? name) fun n =>
      ∀ k ∈ Timeouts.timeOfInt (n.getD (-1)), k ≤ Timeouts.limit := by
  rw [integer?]
  split
  · next e _ =>
      refine (yields_integerValue e).map fun n hn k hk => ?_
      have hle : n ≤ Timeouts.limit := by omega
      exact Timeouts.le_limit_of_mem_timeOfInt hle hk
  · exact yields_pure fun k hk => by cases hk

end Arguments

/-! ### Helper attributes -/

/-- The value of a query item is fixed. -/
def QueryItem.IsFixed (q : QueryItem) : Prop :=
  ∃ name value, q = .fixed name value

theorem QueryItem.yields_ofLine (line : String) :
    Yields (QueryItem.ofLine line) QueryItem.IsFixed := by
  rw [ofLine]
  split
  · exact yields_pure ⟨_, _, rfl⟩
  · exact yields_error _

theorem Verb.faithful_of_ofShorthand? {name : String} {v : Verb} (h : ofShorthand? name = some v) :
    v.Faithful := by
  unfold ofShorthand? at h
  split at h <;> cases h <;> rfl

namespace Helper

theorem yields_genericRoute (a : Attribute) : Yields (genericRoute a) fun r => r.verb.Faithful := by
  unfold genericRoute
  refine (yields_any _).bind fun args _ => ?_
  refine (yields_any _).bind fun verb _ => ?_
  refine (yields_any _).bind fun url _ => ?_
  split
  · exact yields_error _
  · exact yields_pure (Verb.faithful_ofToken verb)

theorem yields_shorthandRoute (verb : Verb) (a : Attribute) :
    Yields (shorthandRoute verb a) fun r => r.verb = verb := by
  unfold shorthandRoute
  refine (yields_any _).bind fun args _ => ?_
  exact (yields_any _).bind fun url _ => yields_pure rfl

theorem yields_query (a : Attribute) : Yields (query a) QueryItem.IsFixed := by
  unfold query
  refine (yields_any _).bind fun args _ => ?_
  refine (yields_any _).bind fun name _ => ?_
  exact (yields_any _).bind fun value _ => yields_pure ⟨name, value, rfl⟩

theorem yields_queries (a : Attribute) :
    Yields (queries a) fun items => ∀ q ∈ items, q.IsFixed := by
  unfold queries
  refine (yields_any _).bind fun args _ => ?_
  exact yields_mapM (fun line => (QueryItem.yields_ofLine line).mapError _) args.positional

theorem yields_timeouts (a : Attribute) : Yields (timeouts a) Timeouts.Bounded := by
  unfold timeouts
  refine (yields_any _).bind fun args _ => ?_
  refine (args.yields_integer? "connect").bind fun connect hconnect => ?_
  refine (args.yields_integer? "request").bind fun request hrequest => ?_
  refine (args.yields_integer? "socket").bind fun socket hsocket => ?_
  exact yields_pure ⟨hconnect, hrequest, hsocket⟩

end Helper

/-! ### Methods -/

/-- What annotations can say about a method, apart from its parameters. -/
structure Method.Annotated (m : Method) : Prop where
  queries : ∀ q ∈ m.queries, q.IsFixed
  verbs : ∀ r ∈ m.routes, r.verb.Faithful
  timeouts : m.timeouts.Bounded

namespace Method

variable {m : Method}

theorem bare_annotated (name : String) (isAsync : Bool) : (bare name isAsync).Annotated where
  queries _ h := absurd h List.not_mem_nil
  verbs _ h := absurd h List.not_mem_nil
  timeouts := Timeouts.unset_bounded

theorem Annotated.addRoute (h : m.Annotated) {r : Route} (hr : r.verb.Faithful) :
    { m with routes := m.routes ++ [r] }.Annotated where
  queries := h.queries
  verbs := List.forall_mem_append.mpr ⟨h.verbs, List.forall_mem_singleton.mpr hr⟩
  timeouts := h.timeouts

theorem Annotated.addQueries (h : m.Annotated) {items : List QueryItem}
    (hitems : ∀ q ∈ items, q.IsFixed) : { m with queries := m.queries ++ items }.Annotated where
  queries := List.forall_mem_append.mpr ⟨h.queries, hitems⟩
  verbs := h.verbs
  timeouts := h.timeouts

/-- An attribute adds nothing else. -/
theorem Annotated.annotate (h : m.Annotated) (a : Attribute) : Yields (m.annotate a) Annotated := by
  unfold Method.annotate
  split
  · exact yields_pure h
  · exact (Helper.yields_genericRoute a).bind fun r hr => yields_pure (h.addRoute hr)
  · exact (yields_any _).bind fun _ _ => yields_pure ⟨h.queries, h.verbs, h.timeouts⟩
  · exact (yields_any _).bind fun _ _ => yields_pure ⟨h.queries, h.verbs, h.timeouts⟩
  · exact (Helper.yields_query a).bind fun q hq =>
      yields_pure (h.addQueries (List.forall_mem_singleton.mpr hq))
  · exact (Helper.yields_queries a).bind fun items hitems => yields_pure (h.addQueries hitems)
  · exact (Helper.yields_timeouts a).bind fun t ht =>
      yields_pure ⟨h.queries, h.verbs, h.timeouts.merge ht⟩
  · next name =>
      split
      · next verb hverb =>
          refine (Helper.yields_shorthandRoute verb a).bind fun r hr => yields_pure ?_
          exact h.addRoute (hr ▸ Verb.faithful_of_ofShorthand? hverb)
      · exact yields_pure h

/-- There are no more parameters than inputs. -/
theorem yields_ofInputs (inputs : List Input) :
    Yields (Param.ofInputs inputs) fun params => params.length ≤ inputs.length := by
  induction inputs with
  | nil => exact yields_pure (Nat.le_refl 0)
  | cons input rest ih =>
      rw [Param.ofInputs]
      refine (yields_any _).bind fun param _ => ih.bind fun params hparams => yields_pure ?_
      rw [List.length_append, List.length_cons]
      cases param with
      | none => exact Nat.le_succ_of_le (by simpa using hparams)
      | some p => simpa [Nat.add_comm] using hparams

theorem yields_ofFunction (f : Function) :
    Yields (ofFunction f) fun m => m.Annotated ∧ m.params.length ≤ f.inputs.length := by
  unfold ofFunction
  refine (yields_foldlM (fun m h a => h.annotate a) f.attributes
    (bare_annotated f.name f.isAsynchronous)).bind fun m hm => ?_
  exact (yields_ofInputs f.inputs).bind fun params hparams =>
    yields_pure ⟨⟨hm.queries, hm.verbs, hm.timeouts⟩, hparams⟩

theorem yields_ofMembers (members : List Member) :
    Yields (ofMembers members) fun methods => ∀ m ∈ methods, m.Annotated ∧
      ∃ f, .method f ∈ members ∧ m.params.length ≤ f.inputs.length := by
  induction members with
  | nil => exact yields_pure fun _ h => absurd h List.not_mem_nil
  | cons member rest ih =>
      cases member with
      | other attributes =>
          rw [ofMembers]
          refine ih.mono fun methods h m hm => ?_
          obtain ⟨hannotated, f, hf, hlength⟩ := h m hm
          exact ⟨hannotated, f, List.mem_cons_of_mem _ hf, hlength⟩
      | method f =>
          rw [ofMembers]
          refine (yields_ofFunction f).bind fun m hm => ih.bind fun methods h => yields_pure ?_
          refine List.forall_mem_cons.mpr ⟨⟨hm.1, f, List.mem_cons_self, hm.2⟩, fun m' hm' => ?_⟩
          obtain ⟨hannotated, f', hf', hlength⟩ := h m' hm'
          exact ⟨hannotated, f', List.mem_cons_of_mem _ hf', hlength⟩

end Method

/-! ### Interfaces -/

/-- What annotations can say about an interface. -/
structure Interface.Annotated (i : Interface) : Prop where
  timeouts : i.timeouts.Bounded
  methods : ∀ m ∈ i.methods, m.Annotated

/-- An attribute of a trait keeps its times within the limit. -/
theorem Shared.yields_annotate {s : Shared} (h : s.timeouts.Bounded) (a : Attribute) :
    Yields (s.annotate a) fun s' => s'.timeouts.Bounded := by
  unfold annotate
  split
  · exact (yields_any _).bind fun _ _ => yields_pure h
  · split
    · exact (yields_any _).bind fun _ _ => yields_pure h
    · split
      · exact (Helper.yields_timeouts a).bind fun t ht => yields_pure (h.merge ht)
      · exact yields_pure h

/-- The declaration of a trait is one that annotations can make, and its methods have no more
parameters than inputs. -/
theorem Interface.yields_ofTrait (t : Trait) :
    Yields (Interface.ofTrait t) fun i => i.Annotated ∧
      ∀ m ∈ i.methods, ∃ f, .method f ∈ t.members ∧ m.params.length ≤ f.inputs.length := by
  unfold ofTrait
  refine (yields_foldlM (fun _ h a => Shared.yields_annotate h a) t.attributes
    Timeouts.unset_bounded).bind fun settings hsettings => ?_
  exact (Method.yields_ofMembers t.members).bind fun methods h =>
    yields_pure ⟨⟨hsettings, fun m hm => (h m hm).1⟩, fun m hm => (h m hm).2⟩

/-- The declaration of an expanded trait is that of the trait, marked as a client. -/
theorem Interface.yields_ofAnnotated (t : Trait) :
    Yields (Interface.ofAnnotated t) fun i =>
      ∃ j, Interface.ofTrait t = .ok j ∧ i = { j with isClient := true } := by
  rw [ofAnnotated]
  split
  · next j hj => exact yields_pure ⟨j, hj, rfl⟩
  · exact yields_error _

end ClientTraits
