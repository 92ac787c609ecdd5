import ClientTraits.Proofs.Annotation.Splitting
import ClientTraits.Proofs.Wire.RoundTrip

/-!
# Integers of attributes

The integers that an attribute takes are written as a literal with minus signs and parentheses
around it, at any depth (`Expr.IsInteger`). The literal may not be beyond the largest number of 64
bits with a sign, and that is checked before its signs count. So all values on the way are as far
from the smallest number, the only one that has no opposite, and the value may be computed in words
of 64 bits (`Arguments.wordValue`). Timeouts are therefore within what the written form can hold
(`integers_fit`).

## Proof shape

All statements about values are inductions along `integerValue`. Those about timeouts go back to
what one key says (`Arguments.integer?_eq_ok_iff`), and there is one lemma for all three keys
(`Timeouts.isSaidBy_timeOfInt`).
-/

namespace ClientTraits

open Rust

/-- An integer literal with so many minus signs in front of it, and perhaps parentheses. -/
inductive Rust.Expr.IsInteger (n : Nat) : Nat → Expr → Prop
  | literal (text : String) : IsInteger n 0 (.literal ⟨text, .integer n⟩)
  | negated {signs : Nat} {e : Expr} (h : IsInteger n signs e) :
      IsInteger n (signs + 1) (.negated e)
  | grouped {signs : Nat} {e : Expr} (h : IsInteger n signs e) : IsInteger n signs (.grouped e)

namespace Arguments

/-! ### Values -/

/-- The integer that an expression denotes, in words of 64 bits. The opposite of the smallest word
would be that word again. -/
def wordValue : Expr → Except AnnotationError Int64
  | .literal ⟨_, .integer n⟩ => if n ≤ maxInteger then .ok (.ofNat n) else .error .tooLarge
  | .negated e => (wordValue e).map fun w => -w
  | .grouped e => wordValue e
  | _ => .error .notInteger

/-- The signs count after the literal was checked. -/
theorem integerValue_of_isInteger {n signs : Nat} {e : Expr} (h : e.IsInteger n signs) :
    integerValue e = if n ≤ maxInteger then .ok ((-1) ^ signs * n) else .error .tooLarge := by
  induction h with
  | literal text => simp [integerValue]
  | @negated signs e h ih =>
      rw [integerValue, ih]
      split
      · simp [Except.map, pow_succ]
      · rfl
  | grouped h ih => rw [integerValue, ih]

/-- Nothing else is an integer. -/
theorem integerValue_of_not_isInteger {e : Expr} (h : ∀ n signs, ¬ e.IsInteger n signs) :
    integerValue e = .error .notInteger := by
  fun_induction integerValue e with
  | case1 text n hn => exact absurd (.literal text) (h n 0)
  | case2 text n hn => exact absurd (.literal text) (h n 0)
  | case3 e ih => rw [ih fun n signs hn => h n (signs + 1) hn.negated]; rfl
  | case4 e ih => exact ih fun n signs hn => h n signs hn.grouped
  | case5 e => rfl

theorem natAbs_le_of_integerValue {e : Expr} {v : Int} (h : integerValue e = .ok v) :
    v.natAbs ≤ 2 ^ 63 - 1 :=
  yields_integerValue e v h

/-- No value on the way is one that has no opposite. -/
theorem map_toInt_wordValue (e : Expr) : (wordValue e).map Int64.toInt = integerValue e := by
  fun_induction integerValue e with
  | case1 text n hn =>
      have hlt : n < 2 ^ 63 := Nat.lt_succ_of_le hn
      rw [wordValue, if_pos hn]
      simp [Except.map, Int64.toInt_ofNat_of_lt hlt]
  | case2 text n hn => rw [wordValue, if_neg hn]; rfl
  | case3 e ih =>
      rw [wordValue]
      cases hword : wordValue e with
      | error err => rw [hword] at ih; rw [← ih]; rfl
      | ok w =>
          rw [hword] at ih
          have hle : w.toInt.natAbs ≤ 2 ^ 63 - 1 := natAbs_le_of_integerValue ih.symm
          rw [← ih]
          show Except.ok (-w).toInt = Except.ok (-w.toInt)
          rw [Int64.toInt_neg, Int.bmod_eq_of_le] <;> omega
  | case4 e ih => rw [wordValue, ih]
  | case5 e hliteral hnegated hgrouped =>
      rw [wordValue]
      · rfl
      all_goals assumption

/-! ### Timeouts -/

theorem value?_eq_none_iff {args : Arguments} {key : String} :
    args.value? key = Option.none ↔ key ∉ args.named.map Prod.fst := by
  constructor
  · intro h hmem
    obtain ⟨pair, hpair, hkey⟩ := List.mem_map.mp hmem
    rw [value?, Option.map_eq_none_iff, List.find?_eq_none] at h
    exact h pair hpair (beq_iff_eq.mpr hkey)
  · intro h
    exact value?_eq_none fun pair hpair hkey => h (hkey ▸ List.mem_map_of_mem hpair)

/-- The integer under a key is that of the first value there. -/
theorem integer?_eq_ok_iff {args : Arguments} {key : String} {v : Option Int} :
    args.integer? key = .ok v ↔
      match v with
      | some v => ∃ e, args.value? key = some e ∧ integerValue e = .ok v
      | Option.none => args.value? key = Option.none := by
  rw [integer?]
  cases args.value? key with
  | none => cases v <;> simp
  | some e =>
      cases hvalue : integerValue e with
      | error err => cases v <;> simp [Except.map, hvalue]
      | ok v' => cases v <;> simp [Except.map, hvalue]

end Arguments

namespace Timeouts

/-- The times with their keys. -/
def fields (t : Timeouts) : List (String × Option Nat) :=
  [("connect", t.connect), ("request", t.request), ("socket", t.socket)]

/-- The time is what the arguments say under the key: it is unset without the key or if the value is
negative, and else it is the value. -/
structure IsSaidBy (args : Arguments) (key : String) (time : Option Nat) : Prop where
  unset_iff : time = none ↔ key ∉ args.named.map Prod.fst ∨
    ∃ e v, args.value? key = some e ∧ Arguments.integerValue e = .ok v ∧ v < 0
  set_iff : ∀ n, time = some n ↔
    ∃ e, args.value? key = some e ∧ Arguments.integerValue e = .ok (n : Int)

theorem timeOfInt_eq_none_iff {v : Int} : timeOfInt v = none ↔ v < 0 := by
  cases v with
  | ofNat n => simp [timeOfInt]
  | negSucc n => simp [timeOfInt, Int.negSucc_lt_zero]

theorem timeOfInt_eq_some_iff {v : Int} {n : Nat} : timeOfInt v = some n ↔ v = n := by
  cases v with
  | ofNat m => simp [timeOfInt]
  | negSucc m => simp [timeOfInt]

theorem isSaidBy_timeOfInt {args : Arguments} {key : String} {v : Option Int}
    (h : args.integer? key = .ok v) : IsSaidBy args key (timeOfInt (v.getD (-1))) := by
  have hv := Arguments.integer?_eq_ok_iff.mp h
  cases v with
  | none =>
      constructor
      · exact iff_of_true rfl (.inl (Arguments.value?_eq_none_iff.mp hv))
      · intro n
        simp [timeOfInt_eq_some_iff, hv]
  | some v =>
      obtain ⟨e, he, hvalue⟩ := hv
      have hkey : key ∈ args.named.map Prod.fst := by
        by_contra hno
        rw [Arguments.value?_eq_none_iff.mpr hno] at he
        cases he
      constructor
      · simp [timeOfInt_eq_none_iff, hkey, he, hvalue]
      · intro n
        simp [timeOfInt_eq_some_iff, he, hvalue]

/-- A time within the limit is written as a word with a sign. -/
theorem exists_timeToJson_eq {time : Option Nat} (h : ∀ n ∈ time, n ≤ 2 ^ 63 - 1) :
    ∃ w : Int64, timeToJson time = .integer w.toInt := by
  cases time with
  | none => exact ⟨-1, rfl⟩
  | some n =>
      have hlt : n < 2 ^ 63 := Nat.lt_of_le_pred (by decide) (h n rfl)
      exact ⟨.ofNat n, by rw [timeToJson, Int64.toInt_ofNat_of_lt hlt]⟩

end Timeouts

/-- **Integers of attributes.** A literal with minus signs and parentheses around it has the value
that the signs give it, unless the literal alone is beyond the largest number of 64 bits with a
sign; all other expressions are refused. So every value on the way has an opposite in 64 bits, and
words of 64 bits would do. A time is unset exactly if its key is missing or has a negative value,
and else it is the value of the key. It is written as a number of 64 bits with a sign, and read
back. -/
theorem integers_fit :
    (∀ (e : Expr) (n signs : Nat), e.IsInteger n signs → Arguments.integerValue e =
      if n ≤ 2 ^ 63 - 1 then .ok ((-1) ^ signs * n) else .error .tooLarge) ∧
    (∀ e : Expr, (∀ n signs, ¬ e.IsInteger n signs) →
      Arguments.integerValue e = .error .notInteger) ∧
    (∀ e v, Arguments.integerValue e = .ok v → -(2 ^ 63 - 1) ≤ v ∧ v ≤ 2 ^ 63 - 1) ∧
    (∀ e, (Arguments.wordValue e).map Int64.toInt = Arguments.integerValue e) ∧
    ∀ a t, Helper.timeouts a = .ok t → ∃ args, Arguments.ofAttribute a = .ok args ∧
      (∀ field ∈ t.fields, Timeouts.IsSaidBy args field.1 field.2 ∧
        (∀ n ∈ field.2, n ≤ 2 ^ 63 - 1) ∧
        ∃ w : Int64, Timeouts.timeToJson field.2 = .integer w.toInt) ∧
      (Json.Value.read? t.toJson.compact).bind Timeouts.ofJson? = some t := by
  refine ⟨fun e n signs h => Arguments.integerValue_of_isInteger h,
    fun e h => Arguments.integerValue_of_not_isInteger h, ?_, Arguments.map_toInt_wordValue, ?_⟩
  · intro e v h
    have hle := Arguments.natAbs_le_of_integerValue h
    omega
  · intro a t h
    have hbounded : t.Bounded := Helper.yields_timeouts a t h
    obtain ⟨args, hargs⟩ : ∃ args, Arguments.ofAttribute a = .ok args := by
      obtain ⟨args, hknown, -⟩ := bind_eq_ok_iff.mp h
      obtain ⟨args, hargs, -⟩ := bind_eq_ok_iff.mp hknown
      exact ⟨args, hargs⟩
    obtain ⟨-, connect, request, socket, hconnect, hrequest, hsocket, rfl⟩ :=
      (Helper.timeouts_eq_ok_iff hargs).mp h
    have hfield : ∀ key v, args.integer? key = .ok v →
        let time := Timeouts.timeOfInt (v.getD (-1))
        Timeouts.IsSaidBy args key time ∧ (∀ n ∈ time, n ≤ 2 ^ 63 - 1) ∧
          ∃ w : Int64, Timeouts.timeToJson time = .integer w.toInt := by
      intro key v hv
      have hle := args.yields_integer? key v hv
      exact ⟨Timeouts.isSaidBy_timeOfInt hv, hle, Timeouts.exists_timeToJson_eq hle⟩
    refine ⟨args, hargs, ?_, ?_⟩
    · simp only [Timeouts.fields, Timeouts.ofInts, List.forall_mem_cons]
      exact ⟨hfield _ _ hconnect, hfield _ _ hrequest, hfield _ _ hsocket, List.forall_mem_nil _⟩
    · rw [Json.Value.read?_compact (Timeouts.isExact_toJson _), Option.bind_some]
      exact Timeouts.ofJson?_toJson Json.rearranges_id hbounded

/-- The literal is checked before its sign, so that the smallest number cannot be written. -/
example :
    Arguments.integerValue (.negated (.literal ⟨"9223372036854775807", .integer (2 ^ 63 - 1)⟩)) =
      .ok (-(2 ^ 63 - 1)) ∧
    Arguments.integerValue (.negated (.literal ⟨"9223372036854775808", .integer (2 ^ 63)⟩)) =
      .error .tooLarge := by
  decide

end ClientTraits
