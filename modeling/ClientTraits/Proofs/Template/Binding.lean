import ClientTraits.Proofs.Resolution.References
import ClientTraits.Proofs.Template.Grammar

/-!
# How templates are bound

A resolver may have a state of its own, so that it matters which questions it is asked, and in which
order. `Template.recorded` keeps a record of them. Compiling asks for the placeholders of a template
from left to right, and for none behind the first without an answer; the parts are the tokens with
the answers, or there are none (`compile_asks_in_order`). So a compiled template is written as the
template that it was compiled from. That carries over to endpoints: none of the settings above a
method change its URL.

## Proof shape

`Binds` relates tokens, a record and an outcome, with one rule for each way in which a token can be
bound. One induction along the tokens shows that a run keeps to it (`bindTokens_recorded`), and all
else is read off it.
-/

namespace ClientTraits

namespace Template

/-! ### Records of a resolver -/

/-- Questions of a resolver with its answers, the first one first. -/
abbrev Record := List (String × Option Argument)

variable {σ : Type}

/-- The resolver, with a record of what it is asked and what it answers. -/
def recorded (resolve : String → StateM σ (Option Argument)) (name : String) :
    StateM (σ × Record) (Option Argument) := do
  let (state, record) ← get
  let (answer, state) := (resolve name).run state
  set (state, record ++ [(name, answer)])
  return answer

theorem run_recorded {resolve : String → StateM σ (Option Argument)} {name : String} {s s' : σ}
    {answer : Option Argument} (h : (resolve name).run s = (answer, s')) (before : Record) :
    (recorded resolve name).run (s, before) = (answer, s', before ++ [(name, answer)]) := by
  show (((resolve name).run s).1, ((resolve name).run s).2,
    before ++ [(name, ((resolve name).run s).1)]) = _
  rw [h]

/-- A sequence goes on where its first part ended. -/
theorem run_bind_of_run {α β : Type} {x : StateM σ α} {f : α → StateM σ β} {s s' : σ} {a : α}
    (h : x.run s = (a, s')) : (x >>= f).run s = (f a).run s' := by
  rw [StateT.run_bind, h]
  rfl

/-! ### Runs -/

/-- What binding tokens comes to if these are the questions and answers on the way. -/
inductive Binds : List Token → Record → Except Unbound (List Part) → Prop
  | nil : Binds [] [] (.ok [])
  | literal {rest : List Token} {record : Record} {result : Except Unbound (List Part)}
      (text : List Char) (h : Binds rest record result) :
      Binds (.literal text :: rest) record (result.map (.fixed (String.ofList text) :: ·))
  | answered {rest : List Token} {record : Record} {result : Except Unbound (List Part)}
      (name : List Char) (a : Argument) (h : Binds rest record result) :
      Binds (.placeholder name :: rest) ((String.ofList name, some a) :: record)
        (result.map (.ofPlaceholder (String.ofList name) a :: ·))
  | unanswered (name : List Char) (rest : List Token) :
      Binds (.placeholder name :: rest) [(String.ofList name, none)]
        (.error ⟨String.ofList name⟩)

/-- A run keeps to the rules, and recording it changes nothing. -/
theorem bindTokens_recorded (resolve : String → StateM σ (Option Argument)) (tokens : List Token)
    (s : σ) (before : Record) :
    ∃ result s' record, (bindTokens resolve tokens).run s = (result, s') ∧
      (bindTokens (recorded resolve) tokens).run (s, before) = (result, s', before ++ record) ∧
      Binds tokens record result := by
  induction tokens generalizing s before with
  | nil => exact ⟨_, s, [], rfl, by rw [List.append_nil]; rfl, .nil⟩
  | cons token rest ih =>
      cases token with
      | literal text =>
          obtain ⟨result, s', record, hrun, hrecorded, hbinds⟩ := ih s before
          refine ⟨_, s', record, ?_, ?_, hbinds.literal text⟩
          · rw [bindTokens, run_bind_of_run hrun]
            cases result <;> rfl
          · rw [bindTokens, run_bind_of_run hrecorded]
            cases result <;> rfl
      | placeholder name =>
          obtain ⟨answer, s₁, hanswer⟩ :
              ∃ answer s₁, (resolve (String.ofList name)).run s = (answer, s₁) :=
            ⟨_, _, rfl⟩
          have hasked := run_recorded hanswer before
          cases answer with
          | none =>
              refine ⟨_, s₁, _, ?_, ?_, .unanswered name rest⟩
              · rw [bindTokens, run_bind_of_run hanswer]
                rfl
              · rw [bindTokens, run_bind_of_run hasked]
                rfl
          | some a =>
              obtain ⟨result, s', record, hrun, hrecorded, hbinds⟩ :=
                ih s₁ (before ++ [(String.ofList name, some a)])
              rw [List.append_assoc] at hrecorded
              refine ⟨_, s', _, ?_, ?_, hbinds.answered name a⟩
              · rw [bindTokens, run_bind_of_run hanswer]
                dsimp only
                rw [run_bind_of_run hrun]
                cases result <;> rfl
              · rw [bindTokens, run_bind_of_run hasked]
                dsimp only
                rw [run_bind_of_run hrecorded]
                cases result <;> rfl

/-! ### What a run asks and makes -/

/-- The question of a bound part, with its answer. -/
def Part.answer? : Part → Option (String × Option Argument)
  | fixed _ => none
  | bound _ written argument => some (written, some argument)

/-- The part of a token: literal text as it is, a placeholder under its name. -/
def Token.IsBoundAs : Token → Part → Prop
  | literal text, part => part = .fixed (String.ofList text)
  | placeholder name, part => ∃ a, part = .ofPlaceholder (String.ofList name) a

namespace Binds

variable {tokens : List Token} {record : Record} {result : Except Unbound (List Part)}

/-- The questions are placeholders from the first one on, without a gap. -/
theorem names_isPrefix (h : Binds tokens record result) :
    record.map Prod.fst <+: placeholders tokens := by
  induction h with
  | nil => exact List.prefix_rfl
  | literal text h ih => exact ih
  | answered name a h ih => exact List.cons_prefix_cons.mpr ⟨rfl, ih⟩
  | unanswered name rest => exact List.cons_prefix_cons.mpr ⟨rfl, List.nil_prefix⟩

/-- A run fails at the first question without an answer, and asks no more. -/
theorem of_error (h : Binds tokens record result) {e : Unbound} (he : result = .error e) :
    ∃ answered, record = answered ++ [(e.name, none)] ∧ ∀ q ∈ answered, q.2.isSome = true := by
  induction h with
  | nil => cases he
  | @literal rest record result text h ih =>
      cases result with
      | ok parts => cases he
      | error e' => cases he; exact ih rfl
  | @answered rest record result name a h ih =>
      cases result with
      | ok parts => cases he
      | error e' =>
          cases he
          obtain ⟨answered, rfl, hanswered⟩ := ih rfl
          exact ⟨_ :: answered, rfl, List.forall_mem_cons.mpr ⟨rfl, hanswered⟩⟩
  | unanswered name rest =>
      cases he
      exact ⟨[], rfl, fun _ h => absurd h List.not_mem_nil⟩

/-- A run that does not fail asks for all placeholders, and makes the tokens with the answers. -/
theorem of_ok (h : Binds tokens record result) {parts : List Part} (hparts : result = .ok parts) :
    record.map Prod.fst = placeholders tokens ∧ parts.filterMap Part.answer? = record ∧
      List.Forall₂ Token.IsBoundAs tokens parts := by
  induction h generalizing parts with
  | nil =>
      cases hparts
      exact ⟨rfl, rfl, .nil⟩
  | @literal rest record result text h ih =>
      cases result with
      | error e => cases hparts
      | ok more =>
          cases hparts
          obtain ⟨hnames, hanswers, hbound⟩ := ih rfl
          exact ⟨hnames, hanswers, .cons rfl hbound⟩
  | @answered rest record result name a h ih =>
      cases result with
      | error e => cases hparts
      | ok more =>
          cases hparts
          obtain ⟨hnames, hanswers, hbound⟩ := ih rfl
          refine ⟨congrArg (_ :: ·) hnames, ?_, .cons ⟨a, rfl⟩ hbound⟩
          rw [← hanswers]
          rfl
  | unanswered name rest => cases hparts

end Binds

/-- Bound tokens are written as the tokens. -/
theorem render_of_isBoundAs {tokens : List Token} {parts : List Part}
    (h : List.Forall₂ Token.IsBoundAs tokens parts) :
    render parts = String.ofList (write tokens) := by
  induction h with
  | nil => rfl
  | @cons token part tokens parts htoken h ih =>
      have hpart : part.text = String.ofList token.chars := by
        cases token with
        | literal text => rw [htoken]; rfl
        | placeholder name =>
            obtain ⟨a, rfl⟩ := htoken
            rw [Token.chars, String.ofList_cons]
            rfl
      rw [render] at ih ⊢
      rw [List.map_cons, String.join_cons, ih, hpart, write_cons, String.ofList_append]

/-- The bound parts do not depend on an argument if and only if no token is a placeholder. -/
theorem all_isFixed_of_isBoundAs {tokens : List Token} {parts : List Part}
    (h : List.Forall₂ Token.IsBoundAs tokens parts) :
    parts.all Part.isFixed = true ↔ ∀ name, .placeholder name ∉ tokens := by
  induction h with
  | nil => simp
  | @cons token part tokens parts htoken h ih =>
      cases token with
      | literal text =>
          rw [htoken]
          simpa [Part.isFixed] using ih
      | placeholder name =>
          obtain ⟨a, rfl⟩ := htoken
          simp only [List.all_cons, Part.ofPlaceholder, Part.isFixed, Bool.false_and,
            Bool.false_eq_true, false_iff, not_forall, not_not]
          exact ⟨name, List.mem_cons_self⟩

/-! ### Resolvers without a state -/

/-- A resolver without effects binds the same in every monad. -/
theorem compileM_pure {m : Type → Type} [Monad m] [LawfulMonad m]
    (resolve : String → Option Argument) (template : String) :
    compileM (m := m) (fun name => pure (resolve name)) template =
      pure (compile resolve template) := by
  show bindTokens _ (scan template) = pure (bindTokens (m := Id) _ (scan template))
  induction scan template with
  | nil => rfl
  | cons token rest ih =>
      cases token with
      | literal text =>
          simp only [bindTokens, ih, pure_bind]
          cases bindTokens (m := Id) (fun name => pure (resolve name)) rest <;> rfl
      | placeholder name =>
          simp only [bindTokens, pure_bind]
          cases resolve (String.ofList name) with
          | none => rfl
          | some a =>
              simp only [ih, pure_bind]
              cases bindTokens (m := Id) (fun name => pure (resolve name)) rest <;> rfl

/-- A compiled template has one part for each token. -/
theorem isBoundAs_of_compile {resolve : String → Option Argument} {template : String}
    {parts : List Part} (h : compile resolve template = .ok parts) :
    List.Forall₂ Token.IsBoundAs (scan template) parts := by
  obtain ⟨result, s', record, hrun, -, hbinds⟩ := bindTokens_recorded
    (fun name => (pure (resolve name) : StateM Unit (Option Argument))) (scan template) () []
  have hpure := congrArg (StateT.run · ()) (compileM_pure (m := StateM Unit) resolve template)
  have hresult : result = .ok parts := by
    rw [← h]
    exact congrArg Prod.fst (hrun.symm.trans hpure)
  exact (hbinds.of_ok hresult).2.2

end Template

/-! ### URLs of endpoints -/

/-- The URL of a method without a defect is that of its chosen route, with a part for each token. -/
theorem Method.exists_isBoundAs_of_call {m : Method} {c : Call} (h : m.call.value = .ok c) :
    ∃ route, m.chosenRoute.value = some route ∧
      List.Forall₂ Template.Token.IsBoundAs (Template.scan route.template) c.url := by
  obtain ⟨route, hroute, hcollects⟩ := exists_chosen_collects h
  exact ⟨route, (value_chosenRoute m).trans hroute, Template.isBoundAs_of_compile hcollects.url⟩

namespace Template

/-- **Templates are bound from left to right, all or not at all.** The resolver is asked for the
placeholders of the template in order, up to the first that it does not answer. If there is one, its
name is the error; else each token has its part, in order, with the answer for a placeholder, and
the parts are written as the template. So the URL of an endpoint is written as the template of the
route that was chosen for its method, and it is fixed if and only if that template has no colon with
a lower case letter behind it. -/
theorem compile_asks_in_order :
    (∀ {σ : Type} (resolve : String → StateM σ (Option Argument)) (template : String) (s : σ),
      ∃ result s' asked, (compileM resolve template).run s = (result, s') ∧
        (compileM (recorded resolve) template).run (s, []) = (result, s', asked) ∧
        match result with
        | .error e => asked.map Prod.fst <+: placeholders (scan template) ∧
            ∃ answered, asked = answered ++ [(e.name, none)] ∧ ∀ q ∈ answered, q.2.isSome = true
        | .ok parts => asked.map Prod.fst = placeholders (scan template) ∧
            parts.filterMap Part.answer? = asked ∧
            List.Forall₂ Token.IsBoundAs (scan template) parts ∧ render parts = template) ∧
    ∀ (c : Catalog) (root : String), ∀ e ∈ (c.resolve root).value.endpoints,
      ∃ i, c.find? e.signature.owner = some i ∧ ∃ m ∈ i.methods, m.signature i.name = e.signature ∧
        ∃ route, m.chosenRoute.value = some route ∧ e.template = route.template ∧
          (e.hasFixedUrl = true ↔ ¬ HoldsPlaceholder route.template.toList) := by
  have hrender : ∀ {template : String} {parts : List Part},
      List.Forall₂ Token.IsBoundAs (scan template) parts → render parts = template := by
    intro template parts h
    rw [render_of_isBoundAs h, scan, write_scanChars, String.ofList_toList]
  constructor
  · intro σ resolve template s
    obtain ⟨result, s', asked, hrun, hrecorded, hbinds⟩ :=
      bindTokens_recorded resolve (scan template) s []
    refine ⟨result, s', asked, hrun, hrecorded, ?_⟩
    cases result with
    | error e => exact ⟨hbinds.names_isPrefix, hbinds.of_error rfl⟩
    | ok parts =>
        obtain ⟨hnames, hanswers, hbound⟩ := hbinds.of_ok rfl
        exact ⟨hnames, hanswers, hbound, hrender hbound⟩
  · intro c root e he
    obtain ⟨-, -, l, -, hfind, m, hm, call, hcall, rfl⟩ :=
      Catalog.exists_call_of_mem_endpoints_resolve he
    obtain ⟨route, hroute, hbound⟩ := Method.exists_isBoundAs_of_call hcall
    -- The settings of interfaces leave the URL as it was collected.
    refine ⟨l.last, hfind, m, hm, rfl, route, hroute, hrender hbound, ?_⟩
    exact (all_isFixed_of_isBoundAs hbound).trans (forall_placeholder_notMem_scanChars_iff _)

/-- A resolver that answers its first two questions with their numbers. -/
def answerTwo (name : String) : StateM Nat (Option Argument) := do
  let asked ← get
  set (asked + 1)
  return if asked < 2 then some ⟨asked, name⟩ else none

/-- A client with two routes for one method, and with literals that look like placeholders. -/
def crowdedCatalog : Catalog :=
  .ofList [⟨"Api", true, [], .unset, [],
    [⟨"seats", true, [.plain "b" "u8", .plain "a" "u8"],
      [⟨.post, "/never", false⟩, ⟨.get, "/:A::1:/:a:b", true⟩], [], [], .unset⟩,
     ⟨"ping", true, [], [⟨.get, "/:Ping::", true⟩], [], [], .unset⟩]⟩]

theorem compile_asks_in_order_crowdedCatalog :
    ((compileM answerTwo "/:a/:b:c:d").run 0).1 = .error ⟨"c"⟩ ∧
      ((compileM (recorded answerTwo) "/:a/:b:c:d").run (0, [])).2 =
        (3, [("a", some ⟨0, "a"⟩), ("b", some ⟨1, "b"⟩), ("c", none)]) ∧
      (crowdedCatalog.resolve "Api").value.endpoints.map
          (fun e => (e.template, e.hasFixedUrl)) =
        [("/:A::1:/:a:b", false), ("/:Ping::", true)] ∧
      ∀ e ∈ (crowdedCatalog.resolve "Api").value.endpoints,
        ∃ i, crowdedCatalog.find? e.signature.owner = some i ∧
          ∃ m ∈ i.methods, m.signature i.name = e.signature ∧
          ∃ route, m.chosenRoute.value = some route ∧ e.template = route.template ∧
            (e.hasFixedUrl = true ↔ ¬ HoldsPlaceholder route.template.toList) :=
  ⟨by decide +kernel, by decide +kernel, by decide +kernel,
    compile_asks_in_order.2 crowdedCatalog "Api"⟩

end Template

end ClientTraits
