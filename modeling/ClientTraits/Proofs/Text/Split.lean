import ClientTraits.Text.Split

/-!
# What cutting a text gives

The cut is at the first delimiter, if there is one. Pieces are put together as the texts were, with
the delimiters between them.
-/

namespace ClientTraits.Text

/-! ### Cutting in two -/

theorem splitChars_eq_none_iff {delimiter : Char} {cs : List Char} :
    splitChars delimiter cs = none ↔ delimiter ∉ cs := by
  induction cs with
  | nil => simp [splitChars]
  | cons c rest ih =>
      by_cases hc : c = delimiter
      · simp [splitChars, hc]
      · rw [splitChars, if_neg hc, Option.map_eq_none_iff, ih]
        simp [Ne.symm hc]

/-- The cut is at the first delimiter. -/
theorem splitChars_eq_some_iff {delimiter : Char} {cs before after : List Char} :
    splitChars delimiter cs = some (before, after) ↔
      delimiter ∉ before ∧ cs = before ++ delimiter :: after := by
  constructor
  · intro h
    induction cs generalizing before with
    | nil => simp [splitChars] at h
    | cons c rest ih =>
        by_cases hc : c = delimiter
        · rw [splitChars, if_pos hc] at h
          cases h
          simp [hc]
        · rw [splitChars, if_neg hc] at h
          obtain ⟨⟨first, second⟩, hrest, hpair⟩ := Option.map_eq_some_iff.mp h
          cases hpair
          obtain ⟨hfirst, rfl⟩ := ih hrest
          exact ⟨by simp [Ne.symm hc, hfirst], rfl⟩
  · intro h
    rw [h.2, splitChars_append_cons h.1]

/-! ### Cutting into pieces -/

theorem pieceChars_ne_nil (delimiter : Char) (cs : List Char) : pieceChars delimiter cs ≠ [] := by
  fun_cases pieceChars delimiter cs <;> simp

/-- A delimiter between two texts is between their pieces. -/
theorem pieceChars_append_cons (delimiter : Char) (before after : List Char) :
    pieceChars delimiter (before ++ delimiter :: after) =
      pieceChars delimiter before ++ pieceChars delimiter after := by
  induction before with
  | nil => simp [pieceChars]
  | cons c before ih =>
      rw [List.cons_append, pieceChars, pieceChars, ih]
      by_cases hc : c = delimiter
      · rw [if_pos hc, if_pos hc]
        rfl
      · rw [if_neg hc, if_neg hc]
        cases hpieces : pieceChars delimiter before with
        | nil => exact absurd hpieces (pieceChars_ne_nil delimiter before)
        | cons piece pieces => rfl

theorem pieceChars_of_not_mem {delimiter : Char} {cs : List Char} (h : delimiter ∉ cs) :
    pieceChars delimiter cs = [cs] := by
  induction cs with
  | nil => rfl
  | cons c cs ih =>
      obtain ⟨hc, hcs⟩ := List.ne_and_not_mem_of_not_mem_cons h
      rw [pieceChars, if_neg hc.symm, ih hcs]

end ClientTraits.Text
