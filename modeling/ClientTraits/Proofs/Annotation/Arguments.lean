import ClientTraits.Annotation.Arguments

/-!
# Written argument lists

An argument list is written as arguments with commas between them, and perhaps one behind the last
(`CommaList`). An argument is a string literal, or a name with `=` and a literal
(`Arguments.WritesOne`). Every list that is written like this is read as it was written
(`Arguments.ofAttribute_of_writes`).

## Proof shape

An item of a list with commas ends where a comma follows or nothing does (`EndsItem`). It is enough
that a rule takes each item there (`TakesItem`): then it takes the whole list, whatever the items
are (`TakesItem.exists_run_commaList`). That the rules of expressions take a literal there and
nothing more is found by running them (`run_expressionRule_literal`), since no operator begins with a comma.
-/

namespace ClientTraits

namespace Rust

/-! ### Lists with commas -/

/-- What follows an item of a list: nothing, or a comma. -/
inductive EndsItem : List Tree → Prop
  | atEnd : EndsItem []
  | comma (joint : Bool) (rest : List Tree) : EndsItem (.punct ',' joint :: rest)

/-- Items with commas between them, and perhaps one behind the last. -/
inductive CommaList {α : Type} (writes : α → List Tree → Prop) : List α → List Tree → Prop
  | nil : CommaList writes [] []
  | last {a : α} {trees : List Tree} (h : writes a trees) : CommaList writes [a] trees
  | cons {a : α} {trees : List Tree} (h : writes a trees) (joint : Bool) {items : List α}
      {rest : List Tree} (hrest : CommaList writes items rest) :
      CommaList writes (a :: items) (trees ++ .punct ',' joint :: rest)

namespace Parser

variable {α : Type}

/-- An item, and the comma behind it unless it is the last. -/
def withComma (p : Parser α) : Parser α := do
  let a ← p
  if !(← peek .atEnd) then punct ","
  return a

/-- The next item of a list if there is one. -/
def commaItem (p : Parser α) : Parser (Option α) := do
  if ← peek .atEnd then return none else return some (← withComma p)

theorem commaList_eq_many (p : Parser α) : commaList p = many (commaItem p) :=
  rfl

/-- The rule takes the trees, and no more of what follows than the end of the item. -/
def TakesItem (p : Parser α) (a : α) (trees : List Tree) : Prop :=
  trees ≠ [] ∧ ∀ rest, EndsItem rest → ∀ written unfinished, ∃ written',
    p.run ⟨trees ++ rest, written, unfinished⟩ = .ok (a, ⟨rest, written', unfinished⟩)

variable {p : Parser α} {a : α} {trees rest written written' : List Tree}
  {unfinished : Option Delimiter}

theorem run_withComma_of_end
    (h : p.run ⟨trees, written, unfinished⟩ = .ok (a, ⟨[], written', unfinished⟩)) :
    (withComma p).run ⟨trees, written, unfinished⟩ = .ok (a, ⟨[], written', unfinished⟩) := by
  simp only [withComma, StateT.run_bind, h]
  rfl

theorem run_withComma_of_comma {joint : Bool}
    (h : p.run ⟨trees, written, unfinished⟩ =
      .ok (a, ⟨.punct ',' joint :: rest, written', unfinished⟩)) :
    (withComma p).run ⟨trees, written, unfinished⟩ =
      .ok (a, ⟨rest, .punct ',' joint :: written', unfinished⟩) := by
  simp only [withComma, StateT.run_bind, h]
  rfl

theorem run_commaItem (htrees : trees ≠ []) {c : Cursor}
    (h : (withComma p).run ⟨trees, written, unfinished⟩ = .ok (a, c)) :
    (commaItem p).run ⟨trees, written, unfinished⟩ = .ok (some a, c) := by
  cases trees with
  | nil => exact absurd rfl htrees
  | cons t trees =>
      have hstep : (commaItem p).run ⟨t :: trees, written, unfinished⟩ =
          (withComma p).run ⟨t :: trees, written, unfinished⟩ >>= fun x => .ok (some x.1, x.2) :=
        rfl
      rw [hstep, h]
      rfl

theorem TakesItem.exists_run_manyBounded {items : List α} (h : CommaList (TakesItem p) items trees)
    {bound : Nat} (hbound : items.length < bound) (written : List Tree) : ∃ written',
      (manyBounded (commaItem p) bound).run ⟨trees, written, unfinished⟩ =
        .ok (items, ⟨[], written', unfinished⟩) := by
  induction h generalizing bound written with
  | nil =>
      obtain ⟨bound, rfl⟩ := Nat.exists_eq_add_of_lt hbound
      exact ⟨written, rfl⟩
  | @last a trees h =>
      obtain ⟨bound, rfl⟩ : ∃ b, bound = b + 2 := ⟨bound - 2, by simp at hbound; omega⟩
      obtain ⟨written', hrun⟩ := h.2 [] .atEnd written unfinished
      rw [List.append_nil] at hrun
      have hitem := run_commaItem h.1 (run_withComma_of_end hrun)
      refine ⟨written', ?_⟩
      simp only [manyBounded, StateT.run_bind, hitem]
      rfl
  | @cons a trees h joint items rest hrest ih =>
      obtain ⟨bound, rfl⟩ : ∃ b, bound = b + 1 := ⟨bound - 1, by omega⟩
      obtain ⟨written₁, hrun⟩ := h.2 _ (.comma joint rest) written unfinished
      have hitem := run_commaItem (by simp) (run_withComma_of_comma hrun)
      obtain ⟨written', hitems⟩ :=
        ih (Nat.lt_of_succ_lt_succ hbound) (.punct ',' joint :: written₁)
      refine ⟨written', ?_⟩
      simp only [manyBounded, StateT.run_bind, hitem]
      exact (congrArg (· >>= fun x => Except.ok (a :: x.1, x.2)) hitems).trans rfl

theorem length_le_of_commaList {items : List α} (h : CommaList (TakesItem p) items trees) :
    items.length ≤ trees.length := by
  induction h with
  | nil => exact Nat.le_refl 0
  | last h => exact List.length_pos_iff.mpr h.1
  | cons h joint hrest ih =>
      rw [List.length_cons, List.length_append, List.length_cons]
      omega

/-- A rule that takes each item takes the list. -/
theorem TakesItem.exists_run_commaList {items : List α} (h : CommaList (TakesItem p) items trees)
    (written : List Tree) (unfinished : Option Delimiter) : ∃ written',
      (commaList p).run ⟨trees, written, unfinished⟩ =
        .ok (items, ⟨[], written', unfinished⟩) := by
  rw [commaList_eq_many]
  exact TakesItem.exists_run_manyBounded h (Nat.lt_succ_of_le (length_le_of_commaList h)) written

theorem run_ident {name : String} (h : name ∉ keywords) :
    ident.run ⟨.ident name :: rest, written, unfinished⟩ =
      .ok (name, ⟨rest, .ident name :: written, unfinished⟩) := by
  simp [ident, ahead, advance, h]
  rfl

end Parser

theorem CommaList.mono {α : Type} {writes writes' : α → List Tree → Prop}
    (hwrites : ∀ a trees, writes a trees → writes' a trees) {items : List α} {trees : List Tree}
    (h : CommaList writes items trees) : CommaList writes' items trees := by
  induction h with
  | nil => exact .nil
  | last h => exact .last (hwrites _ _ h)
  | cons h joint hrest ih => exact .cons (hwrites _ _ h) joint ih

/-- A literal at the end of an item is the whole expression: no operator begins there. -/
theorem run_expressionRule_literal (g : Rules) (l : Literal) {rest : List Tree} (h : EndsItem rest)
    (written : List Tree) (unfinished : Option Delimiter) :
    (g.expressionRule true).run ⟨.literal l :: rest, written, unfinished⟩ =
      .ok (.literal l, ⟨rest, .literal l :: written, unfinished⟩) := by
  cases h with
  | atEnd => rfl
  | comma joint rest => rfl

end Rust

/-! ### Arguments -/

namespace Arguments

open Rust

/-- The trees of one argument: a string, or a literal behind its name. -/
inductive WritesOne : Written → List Tree → Prop
  | positional (text s : String) : WritesOne (.positional s) [.literal ⟨text, .string s⟩]
  | named {name : String} (h : name ∉ keywords) (joint : Bool) (l : Literal) :
      WritesOne (.named name (.literal l)) [.ident name, .punct '=' joint, .literal l]

/-- The input of an attribute with the given arguments. Without any, there may be no input. -/
inductive Writes : List Written → AttributeInput → Prop
  | nothing : Writes [] .nothing
  | tokens {items : List Written} {trees : List Tree} (h : CommaList WritesOne items trees) :
      Writes items (.tokens trees)

theorem run_writtenRule_named (g : Rules) {name : String} (h : name ∉ keywords) (joint : Bool)
    (rest written : List Tree) (unfinished : Option Delimiter) :
    (writtenRule g).run ⟨.ident name :: .punct '=' joint :: rest, written, unfinished⟩ =
      (Written.named name <$> g.expressionRule true).run
        ⟨rest, .punct '=' joint :: .ident name :: written, unfinished⟩ := by
  have hnamed : Ahead.and .ident (.second (.punct "="))
      (.ident name :: .punct '=' joint :: rest) = true := by
    simp only [Ahead.and, Ahead.ident, h, not_false_eq_true, decide_true, Bool.true_and]
    rfl
  simp only [writtenRule, Parser.ahead, bind_pure_comp, bind_map_left, StateT.run_bind,
    StateT.run_get, pure_bind, hnamed, ↓reduceIte, Parser.run_ident h, StateT.run_map]
  rfl

theorem WritesOne.takesItem {item : Written} {trees : List Tree} (h : WritesOne item trees)
    (g : Rules) : Parser.TakesItem (writtenRule g) item trees := by
  cases h with
  | positional text s =>
      refine ⟨List.cons_ne_nil _ _, fun rest _ written unfinished => ?_⟩
      exact ⟨.literal ⟨text, .string s⟩ :: written, rfl⟩
  | @named name h joint l =>
      refine ⟨List.cons_ne_nil _ _, fun rest hrest written unfinished => ?_⟩
      refine ⟨.literal l :: .punct '=' joint :: .ident name :: written, ?_⟩
      have hvalue := run_expressionRule_literal g l hrest
        (.punct '=' joint :: .ident name :: written) unfinished
      refine (run_writtenRule_named g h joint (.literal l :: rest) written unfinished).trans ?_
      rw [StateT.run_map, hvalue]
      rfl

/-- A written list is read as it was written. -/
theorem ofTrees_of_commaList {items : List Written} {trees : List Tree}
    (h : CommaList WritesOne items trees) : ofTrees trees = .ok (ofWritten items) := by
  have htakes : CommaList (Parser.TakesItem (writtenRule (.forTrees trees))) items trees :=
    h.mono fun _ _ h => h.takesItem _
  obtain ⟨written, hrun⟩ := Parser.TakesItem.exists_run_commaList htakes [] Option.none
  have hrule : (rule (.forTrees trees)).run (.start trees) =
      (Parser.commaList (writtenRule (.forTrees trees))).run (.start trees) >>=
        fun x => .ok (ofWritten x.1, x.2) :=
    rfl
  have hread : readTrees rule trees = .ok (ofWritten items) := by
    rw [readTrees, Parser.runAll, hrule, Cursor.start, hrun]
    rfl
  rw [ofTrees, hread]

/-- The arguments of an attribute are those that are written in it. -/
theorem ofAttribute_of_writes {a : Attribute} {items : List Written} (h : Writes items a.input) :
    ofAttribute a = .ok (ofWritten items) := by
  obtain ⟨absolute, path, input⟩ := a
  cases h with
  | nothing => rfl
  | tokens h => exact ofTrees_of_commaList h

end Arguments

end ClientTraits
