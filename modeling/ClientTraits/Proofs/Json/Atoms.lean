import Mathlib.Tactic.IntervalCases
import Mathlib.Tactic.SplitIfs
import ClientTraits.Json.Printer
import ClientTraits.Json.Reader

/-!
# Strings and integers in JSON text

What the printer writes for a string or an integer, the reader reads back, whatever text follows
(`readString_quoted`, `readNumber_integerChars`). Behind an integer there must not stand a
character that the reader would take for a part of the number (`EndsNumber`).
-/

namespace ClientTraits.Json

/-! ### Strings -/

/-- A character is escaped by a letter, by its number, or not at all. -/
theorem escapeChar_cases (c : Char) :
    (∃ e, escapeChar c = ['\\', e] ∧ simpleEscape? e = some c) ∨
      (c.toNat < 0x20 ∧ escapeChar c =
        ['\\', 'u', '0', '0', hexDigit (c.toNat / 16), hexDigit (c.toNat % 16)]) ∨
      (escapeChar c = [c] ∧ c ≠ '"' ∧ c ≠ '\\' ∧ ¬ c.toNat < 0x20) := by
  rw [escapeChar]
  split_ifs with hquote hslash hb ht hn hf hr hcontrol
  iterate 7
    · subst c
      exact Or.inl ⟨_, rfl, rfl⟩
  · exact Or.inr (Or.inl ⟨hcontrol, rfl⟩)
  · exact Or.inr (Or.inr ⟨rfl, hquote, hslash, hcontrol⟩)

theorem hexDigit?_hexDigit : ∀ n < 16, Text.hexDigit? (hexDigit n) = some n := by
  decide

/-- The numeral of an escaped control character. -/
theorem numeral?_escape {n : Nat} (h : n < 0x20) :
    Text.numeral? 16 ['0', '0', hexDigit (n / 16), hexDigit (n % 16)] = some n := by
  have hzero : Text.hexDigit? '0' = some 0 := by decide
  have hhigh := hexDigit?_hexDigit (n / 16) (by omega)
  have hlow := hexDigit?_hexDigit (n % 16) (by omega)
  have hsum : 16 * (n / 16) + n % 16 = n := by omega
  simp [Text.numeral?, hzero, hhigh, hlow, hsum]

section StringBody

variable {rest cs behind : List Char} (h : readStringBody rest = some (cs, behind))
include h

theorem readStringBody_simple {e c : Char} (he : simpleEscape? e = some c) :
    readStringBody ('\\' :: e :: rest) = some (c :: cs, behind) := by
  have hu : e ≠ 'u' := by
    rintro rfl
    cases he
  simp [readStringBody, hu, he, h]

theorem readStringBody_numeral {a b c d : Char} {unit : Nat}
    (hunit : Text.numeral? 16 [a, b, c, d] = some unit) (hscalar : isScalarUnit unit = true) :
    readStringBody ('\\' :: 'u' :: a :: b :: c :: d :: rest) =
      some (Char.ofNat unit :: cs, behind) := by
  simp [readStringBody, hunit, hscalar, h]

theorem readStringBody_plain {c : Char} (hquote : c ≠ '"') (hslash : c ≠ '\\')
    (hcontrol : ¬ c.toNat < 0x20) : readStringBody (c :: rest) = some (c :: cs, behind) := by
  simp [readStringBody, hslash, hcontrol, h]

/-- The escaped form of a character is read as the character. -/
theorem readStringBody_escapeChar (c : Char) :
    readStringBody (escapeChar c ++ rest) = some (c :: cs, behind) := by
  obtain ⟨e, hc, he⟩ | ⟨hcontrol, hc⟩ | ⟨hc, hquote, hslash, hcontrol⟩ := escapeChar_cases c
  · rw [hc]
    exact readStringBody_simple h he
  · have hscalar : isScalarUnit c.toNat = true := by
      rw [isScalarUnit, Bool.or_eq_true, decide_eq_true_eq]
      omega
    have hread := readStringBody_numeral h (numeral?_escape hcontrol) hscalar
    rw [Char.ofNat_toNat] at hread
    rw [hc]
    exact hread
  · rw [hc]
    exact readStringBody_plain h hquote hslash hcontrol

end StringBody

theorem readStringBody_flatMap_escapeChar (cs rest : List Char) :
    readStringBody (cs.flatMap escapeChar ++ '"' :: rest) = some (cs, rest) := by
  induction cs with
  | nil => rw [List.flatMap_nil, List.nil_append, readStringBody]
  | cons c cs ih =>
      rw [List.flatMap_cons, List.append_assoc]
      exact readStringBody_escapeChar ih c

/-- A quoted string is its opening quote and a text that reads as the string. -/
theorem readString_quoted (s : String) (rest : List Char) :
    ∃ body, quoted s ++ rest = '"' :: body ∧ readString body = some (s, rest) := by
  refine ⟨s.toList.flatMap escapeChar ++ '"' :: rest, ?_, ?_⟩
  · simp [quoted]
  · simp [readString, readStringBody_flatMap_escapeChar]

/-! ### Integers -/

/-- No character at the start of the text could continue a number. -/
def EndsNumber (rest : List Char) : Prop :=
  ∀ c ∈ rest.head?, c.isDigit = false ∧ c ≠ '.' ∧ c ≠ 'e' ∧ c ≠ 'E'

theorem readFractionPart_of_endsNumber {rest : List Char} (h : EndsNumber rest) :
    readFractionPart rest = some ([], rest) := by
  cases rest with
  | nil => rfl
  | cons c rest =>
      obtain ⟨-, hdot, he, hE⟩ := h c rfl
      simp [readFractionPart, hdot, he, hE]

theorem decimal_toDigits (n : Nat) : Text.decimal (Nat.toDigits 10 n) = n := by
  have h : Nat.ofDigitChars 10 (Nat.toDigits 10 n) 0 = n := Nat.ofDigitChars_ten_toDigits
  rw [Nat.ofDigitChars_eq_foldl] at h
  simp only [Nat.mul_comm 10] at h
  exact h

/-- Only the number zero begins with the digit zero. -/
theorem head?_toDigits_ne {n : Nat} (h : 0 < n) : (Nat.toDigits 10 n).head? ≠ some '0' := by
  induction n using Nat.strongRecOn with
  | ind n ih =>
      by_cases hn : n < 10
      · rw [Nat.toDigits_of_lt_base hn]
        interval_cases n <;> decide
      · rw [Nat.toDigits_of_base_le (by omega) (by omega), List.head?_append,
          Option.or_of_isSome (List.isSome_head?.mpr Nat.toDigits_ne_nil)]
        exact ih (n / 10) (by omega) (by omega)

/-- The digits of a number are not taken for digits with zeros in front. -/
theorem toDigits_noLeadingZero (n : Nat) :
    (decide ((Nat.toDigits 10 n).length > 1) && (Nat.toDigits 10 n).head? == some '0') = false := by
  rcases Nat.eq_zero_or_pos n with rfl | hn
  · rfl
  · have hhead := head?_toDigits_ne hn
    simp [hhead]

section Digits

variable (n : Nat) {rest : List Char} (h : EndsNumber rest)
include h

theorem span_toDigits_append :
    (Nat.toDigits 10 n ++ rest).takeWhile Char.isDigit = Nat.toDigits 10 n ∧
      (Nat.toDigits 10 n ++ rest).dropWhile Char.isDigit = rest := by
  have hdigits : ∀ c ∈ Nat.toDigits 10 n, c.isDigit = true := fun c hc =>
    Nat.isDigit_of_mem_toDigits (by omega) (by omega) hc
  rw [List.takeWhile_append_of_pos hdigits, List.dropWhile_append_of_pos hdigits]
  cases rest with
  | nil => exact ⟨List.append_nil _, rfl⟩
  | cons c rest =>
      have hc : ¬ c.isDigit = true := by simp [(h c rfl).1]
      rw [List.takeWhile_cons_of_neg hc, List.dropWhile_cons_of_neg hc]
      exact ⟨List.append_nil _, rfl⟩

theorem readNumber_toDigits : readNumber (Nat.toDigits 10 n ++ rest) = some (.integer n, rest) := by
  obtain ⟨htake, hdrop⟩ := span_toDigits_append n h
  have hminus : ∀ cs, Nat.toDigits 10 n ++ rest ≠ '-' :: cs := by
    intro cs hcs
    rw [hcs] at htake
    exact Nat.toDigits_ne_nil htake.symm
  simp [readNumber, htake, hdrop, toDigits_noLeadingZero, readFractionPart_of_endsNumber h,
    decimal_toDigits]

/-- The text of an integer is read as the integer. -/
theorem readNumber_integerChars (n : Int) :
    readNumber (integerChars n ++ rest) = some (.integer n, rest) := by
  cases n with
  | ofNat n => exact readNumber_toDigits n h
  | negSucc n =>
      obtain ⟨htake, hdrop⟩ := span_toDigits_append (n + 1) h
      simp [integerChars, readNumber, htake, hdrop, toDigits_noLeadingZero,
        readFractionPart_of_endsNumber h, decimal_toDigits, Int.negSucc_eq]

end Digits

end ClientTraits.Json
