import ClientTraits.Proofs.Annotation.Declared
import ClientTraits.Proofs.Rust.Identifier

/-!
# Names of traits

A trait that can be read has an identifier for its name (`isIdentifier_name_of_readTrait?`).

The name is a token of the text. The parsers in front of it leave an end of what they found
(`Parser.Shortens`), so that the name, which is taken from what they leave, stood in the text before
(`Rules.yields_lonelyTrait`); and identifiers in a text are spelled like identifiers
(`spelled_of_trees?`).
-/

namespace ClientTraits.Rust

namespace Parser

variable {α β : Type}

/-- What follows is never more than what followed before. -/
def Shortens (p : Parser α) : Prop :=
  ∀ c, Yields (p.run c) fun x => x.2.rest <:+ c.rest

variable {p : Parser α} {f : α → Parser β}

/-- The second of two parsers starts behind the first. -/
theorem yields_run_bind {P : α × Cursor → Prop} {R : β × Cursor → Prop} {c : Cursor}
    (hp : Yields (p.run c) P) (hf : ∀ a c', P (a, c') → Yields ((f a).run c') R) :
    Yields ((p >>= f).run c) R :=
  Yields.bind hp fun x => hf x.1 x.2

theorem Shortens.bind (hp : p.Shortens) (hf : ∀ a, (f a).Shortens) : (p >>= f).Shortens :=
  fun c => yields_run_bind (hp c) fun a c' hc => (hf a c').mono fun _ h => h.trans hc

theorem shortens_pure (a : α) : (pure a : Parser α).Shortens :=
  fun _ => yields_pure List.suffix_rfl

theorem shortens_throw (e : SyntaxError) : (throw e : Parser α).Shortens :=
  fun _ => yields_error e

theorem shortens_ahead : ahead.Shortens :=
  fun _ => yields_pure List.suffix_rfl

theorem shortens_peek (a : Ahead) : (peek a).Shortens :=
  shortens_ahead.bind fun _ => shortens_pure _

theorem shortens_fail (e : Expectation) : (fail e : Parser α).Shortens :=
  shortens_ahead.bind fun _ => shortens_throw _

theorem shortens_advance (n : Nat) : (advance n).Shortens :=
  fun c => yields_pure (List.drop_suffix n c.rest)

theorem shortens_optKeyword (w : String) : (optKeyword w).Shortens := by
  refine (shortens_peek _).bind fun b => ?_
  split
  · exact (shortens_advance 1).bind fun _ => shortens_pure _
  · exact shortens_pure _

theorem shortens_keyword (w : String) : (keyword w).Shortens := by
  refine (shortens_peek _).bind fun b => ?_
  split
  · exact shortens_advance 1
  · exact shortens_fail _

theorem shortens_punct (w : String) : (punct w).Shortens := by
  refine (shortens_peek _).bind fun b => ?_
  split
  · exact shortens_advance _
  · exact shortens_fail _

/-- Behind a group follows what followed it before. -/
theorem shortens_group (d : Delimiter) (content : Parser α) : (group d content).Shortens := by
  intro c
  obtain ⟨rest, written, unfinished⟩ := c
  have hfail : Yields ((fail (.construct d.name) : Parser α).run ⟨rest, written, unfinished⟩)
      fun x => x.2.rest <:+ rest := shortens_fail _ _
  cases rest with
  | nil => exact hfail
  | cons t rest =>
      cases t with
      | group e trees =>
          show Yields ((if e = d then _ else fail (.construct d.name) : Parser α).run _) _
          split
          · exact (yields_any _).bind fun x _ => yields_pure (List.suffix_cons _ _)
          · exact hfail
      | _ => exact hfail

theorem Shortens.attempt (hp : p.Shortens) : (attempt p).Shortens := by
  intro c
  refine yields_run_bind (p := get) (P := fun x => x = (c, c)) (yields_pure rfl) fun a c' h => ?_
  cases h
  split
  · next a c' hrun => exact yields_pure (hp c (a, c') hrun)
  · exact yields_pure List.suffix_rfl

theorem Shortens.manyBounded {p : Parser (Option α)} (hp : p.Shortens) (bound : Nat) :
    (manyBounded p bound).Shortens := by
  induction bound with
  | zero => exact shortens_throw _
  | succ bound ih =>
      refine hp.bind fun found => ?_
      cases found with
      | none => exact shortens_pure _
      | some a => exact ih.bind fun _ => shortens_pure _

theorem Shortens.manyWhile (hp : p.Shortens) (go : Ahead) : (manyWhile go p).Shortens := by
  refine shortens_ahead.bind fun ts => Shortens.manyBounded ?_ _
  refine (shortens_peek go).bind fun b => ?_
  split
  · exact hp.bind fun _ => shortens_pure _
  · exact shortens_pure _

/-- On all of the trees a parser finds what it finds on them. -/
theorem yields_runAll {P : α × Cursor → Prop} {trees : List Tree}
    (hp : Yields (p.run (.start trees)) P) : Yields (runAll p trees) fun a => ∃ c, P (a, c) := by
  refine hp.bind fun x hx => ?_
  obtain ⟨a, c⟩ := x
  dsimp only
  split
  · exact yields_error _
  · exact yields_error _
  · exact yields_pure ⟨c, hx⟩

end Parser

namespace Rules

open ClientTraits.Rust.Parser

theorem shortens_outerAttributes (g : Rules) : g.outerAttributes.Shortens :=
  ((shortens_punct _).bind fun _ => shortens_group _ _).manyWhile _

theorem shortens_visibility : visibility.Shortens := by
  refine (shortens_optKeyword _).bind fun isPub => ?_
  split
  · refine (shortens_group _ _).attempt.bind fun restriction => ?_
    split <;> exact shortens_pure _
  · exact shortens_pure _

/-- An identifier is taken from what follows. -/
theorem yields_ident (c : Cursor) :
    Yields (ident.run c) fun x => .ident x.1 ∈ c.rest ∧ x.1 ∉ keywords := by
  obtain ⟨rest, written, unfinished⟩ := c
  have hfail (e : Expectation) {post : String × Cursor → Prop} :
      Yields ((fail e : Parser String).run ⟨rest, written, unfinished⟩) post := yields_error _
  cases rest with
  | nil => exact hfail _
  | cons t rest =>
      cases t with
      | ident name =>
          show Yields ((if name ∈ keywords then _ else _ : Parser String).run _) _
          split
          · exact yields_error _
          · next hname => exact yields_pure ⟨List.mem_cons_self, hname⟩
      | _ => exact hfail _

/-- If the item is a trait, its name is one of the trees and no keyword. -/
def NamedIn (trees : List Tree) (item : Item) : Prop :=
  ∀ t, item = .definition t → .ident t.name ∈ trees ∧ t.name ∉ keywords

/-- A trait is named by an identifier that follows. -/
theorem yields_traitTail (g : Rules) (attributes : List Attribute) (v : Visibility)
    (allowAlias : Bool) (c : Cursor) :
    Yields ((g.traitTail attributes v allowAlias).run c) fun x => NamedIn c.rest x.1 := by
  refine yields_run_bind (yields_ident c) fun name _ hname => ?_
  refine yields_run_bind (yields_any _) fun _ _ _ => ?_
  refine yields_run_bind (yields_any _) fun (_, bounds) c' _ => ?_
  refine yields_run_bind (yields_any _) fun isAlias c' _ => ?_
  split
  · -- An alias is no definition.
    refine yields_run_bind (yields_any _) fun _ _ _ => yields_run_bind (yields_any _) fun _ _ _ =>
      yields_run_bind (yields_any _) fun _ _ _ => yields_pure ?_
    rintro t ht
    cases ht
  · refine yields_run_bind (yields_any _) fun _ _ _ => ?_
    refine yields_run_bind (yields_any _) fun _ _ _ => yields_pure ?_
    rintro t ht
    cases ht
    exact hname

/-- What stands in front of the name leaves it where it is. -/
theorem yields_lonelyTrait (g : Rules) (c : Cursor) :
    Yields ((lonelyTrait g).run c) fun x => NamedIn c.rest x.1 := by
  refine yields_run_bind (shortens_outerAttributes g c) fun attributes _ h₁ => ?_
  refine yields_run_bind (shortens_visibility _) fun v _ h₂ => ?_
  refine yields_run_bind (shortens_optKeyword "unsafe" _) fun _ _ h₃ => ?_
  refine yields_run_bind (shortens_optKeyword "auto" _) fun _ _ h₄ => ?_
  refine yields_run_bind (shortens_keyword "trait" _) fun _ c' h₅ => ?_
  have hsuffix : c'.rest <:+ c.rest := (((h₅.trans h₄).trans h₃).trans h₂).trans h₁
  exact (yields_traitTail g attributes v false c').mono fun x hx t ht =>
    ⟨hsuffix.subset (hx t ht).1, (hx t ht).2⟩

end Rules

/-- The name of a trait that can be read is an identifier. -/
theorem isIdentifier_name_of_readTrait? {source : String} {t : Trait}
    (h : readTrait? source = some t) : isIdentifier t.name = true := by
  have hread : readText? lonelyTrait source = some (.definition t) := by
    unfold readTrait? at h
    split at h
    · next hread => rw [hread, Option.some.inj h]
    · cases h
  obtain ⟨trees, htrees, hread⟩ := Option.bind_eq_some_iff.mp hread
  have hall : readTrees lonelyTrait trees = .ok (.definition t) := by
    cases hall : readTrees lonelyTrait trees with
    | error e => rw [hall] at hread; cases hread
    | ok item => rw [hall] at hread; rw [Option.some.inj hread]
  obtain ⟨_, hitem⟩ := Parser.yields_runAll (Rules.yields_lonelyTrait _ (.start trees)) _ hall
  obtain ⟨hmem, hkeyword⟩ := hitem t rfl
  rw [isIdentifier, Bool.and_eq_true]
  exact ⟨decide_eq_true hkeyword, spelled_of_trees? htrees t.name hmem⟩

end ClientTraits.Rust
