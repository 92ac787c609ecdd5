/-!
# Timeouts

Three times in milliseconds, each of which may be unset. Settings of different scopes are
combined time by time: what is set on the right replaces what stands on the left.
-/

namespace ClientTraits

/-- The connect, request and socket timeouts. -/
structure Timeouts where
  connect : Option Nat
  request : Option Nat
  socket : Option Nat
  deriving DecidableEq, Repr

namespace Timeouts

/-- All three unset. -/
def unset : Timeouts := ⟨none, none, none⟩

/-- A time from a signed number: a negative one is unset. -/
def timeOfInt : Int → Option Nat
  | .ofNat n => some n
  | .negSucc _ => none

/-- Timeouts from signed numbers. -/
def ofInts (connect request socket : Int) : Timeouts :=
  ⟨timeOfInt connect, timeOfInt request, timeOfInt socket⟩

/-- Nothing is set. -/
def isUnset (t : Timeouts) : Bool :=
  t == unset

/-- `right` where it is set, else `left`. -/
def merge (left right : Timeouts) : Timeouts :=
  ⟨right.connect <|> left.connect, right.request <|> left.request, right.socket <|> left.socket⟩

/-- The largest time that the signed written form can hold. -/
def limit : Nat := 0x7FFFFFFFFFFFFFFF

/-- No time is beyond the limit. -/
def Bounded (t : Timeouts) : Prop :=
  (∀ n ∈ t.connect, n ≤ limit) ∧ (∀ n ∈ t.request, n ≤ limit) ∧ ∀ n ∈ t.socket, n ≤ limit

@[simp] theorem merge_unset (t : Timeouts) : t.merge unset = t := by
  cases t; simp [merge, unset]

@[simp] theorem unset_merge (t : Timeouts) : unset.merge t = t := by
  cases t; simp [merge, unset]

/-- The order of merging does not matter, only the order of the operands. -/
theorem merge_assoc (a b c : Timeouts) : (a.merge b).merge c = a.merge (b.merge c) := by
  simp [merge, Option.orElse_eq_or, Option.or_assoc]

end Timeouts

end ClientTraits
