import ClientTraits.Rust.TypeText

/-!
# Squeezed text keeps its words

A type is shown without the blanks between its tokens, except where a blank keeps two words apart
(`squeeze`). This neither fuses two words nor splits one: the maximal runs of word characters are
the same before and after (`wordRuns`), and every blank that stays has a word on either side. How
many blanks stand between two tokens is of no importance (`Widened`).

## Proof shape

Whether a blank stays is decided by the last character that was kept and by the very next one of
the text. So statements about a text are statements about what was kept, followed by the rest of the
text (`wordRuns_append_squeezeFrom`): at each step either a character moves from the rest to what
was kept, or a blank disappears between the two, which makes no difference to the words
(`wordRuns_append_blank`). In a row of blanks, only the last one is next to a word; the others go in
any case (`squeezeFrom_blanks`).
-/

namespace ClientTraits.Rust

/-! ### Words -/

/-- The maximal runs of word characters in a text. -/
def wordRuns (cs : List Char) : List (List Char) :=
  (cs.splitOnP fun c => !isWordChar c).filter (· ≠ [])

theorem isWordChar_blank : isWordChar ' ' = false := by
  decide

@[simp]
theorem wordRuns_nil : wordRuns [] = [] :=
  rfl

/-- A character that belongs to no word ends the word before it. -/
theorem wordRuns_append_cons (before after : List Char) {c : Char} (h : isWordChar c = false) :
    wordRuns (before ++ c :: after) = wordRuns before ++ wordRuns after := by
  have hc : (!isWordChar c) = true := by rw [h, Bool.not_false]
  rw [wordRuns, List.splitOnP_append_cons before after hc, List.filter_append]
  rfl

/-- A blank stays where it has a word character on either side. -/
theorem keepsApart_iff {last : Option Char} {rest : List Char} :
    keepsApart last rest = true ↔
      (∃ p ∈ last, isWordChar p = true) ∧ ∃ n ∈ rest.head?, isWordChar n = true := by
  cases rest with
  | nil => simp [keepsApart]
  | cons next rest => cases last <;> simp [keepsApart]

/-- A blank that does not stay makes no difference to the words. -/
theorem wordRuns_append_blank {kept rest : List Char}
    (h : ¬ keepsApart kept.getLast? rest = true) :
    wordRuns (kept ++ ' ' :: rest) = wordRuns (kept ++ rest) := by
  rw [wordRuns_append_cons kept rest isWordChar_blank]
  cases rest with
  | nil => simp
  | cons next rest =>
      by_cases hnext : isWordChar next = true
      · -- The word begins behind the blank, so none ends in front of it.
        rcases List.eq_nil_or_concat kept with rfl | ⟨before, p, rfl⟩
        · rfl
        · have hp : isWordChar p = false := by
            simpa [keepsApart, hnext] using h
          rw [List.concat_eq_append, wordRuns_append_cons before [] hp, wordRuns_nil,
            List.append_nil, List.append_assoc, List.singleton_append,
            wordRuns_append_cons before (next :: rest) hp]
      · have hnext : isWordChar next = false := Bool.eq_false_iff.mpr hnext
        have hrest : wordRuns (next :: rest) = wordRuns rest :=
          wordRuns_append_cons [] rest hnext
        rw [wordRuns_append_cons kept rest hnext, hrest]

/-! ### Squeezing -/

theorem squeezeFrom_of_ne {c : Char} (h : c ≠ ' ') (last : Option Char) (rest : List Char) :
    squeezeFrom last (c :: rest) = c :: squeezeFrom (some c) rest := by
  rw [squeezeFrom, if_neg h]

theorem squeezeFrom_blank (last : Option Char) (rest : List Char) :
    squeezeFrom last (' ' :: rest) =
      if keepsApart last rest then ' ' :: squeezeFrom (some ' ') rest else squeezeFrom last rest :=
  rfl

/-- Nothing but blanks is taken away. -/
theorem filter_squeezeFrom (last : Option Char) (cs : List Char) :
    (squeezeFrom last cs).filter (· ≠ ' ') = cs.filter (· ≠ ' ') := by
  fun_induction squeezeFrom last cs with
  | case1 => rfl
  | case2 last rest hkept ih => simpa using ih
  | case3 last rest hdropped ih => simpa using ih
  | case4 last c rest hc ih => simpa [hc] using ih

/-- Nothing is added, and nothing is moved. -/
theorem squeezeFrom_sublist (last : Option Char) (cs : List Char) :
    (squeezeFrom last cs).Sublist cs := by
  fun_induction squeezeFrom last cs with
  | case1 => exact List.Sublist.slnil
  | case2 last rest hkept ih => exact ih.cons_cons ' '
  | case3 last rest hdropped ih => exact ih.cons ' '
  | case4 last c rest hc ih => exact ih.cons_cons c

/-- The words of what was kept, followed by the rest of the text, stay the same. -/
theorem wordRuns_append_squeezeFrom (kept cs : List Char) :
    wordRuns (kept ++ squeezeFrom kept.getLast? cs) = wordRuns (kept ++ cs) := by
  induction cs generalizing kept with
  | nil => rfl
  | cons c rest ih =>
      have hmove : wordRuns (kept ++ c :: squeezeFrom (some c) rest) =
          wordRuns (kept ++ c :: rest) := by
        simpa using ih (kept ++ [c])
      by_cases hc : c = ' '
      · subst hc
        rw [squeezeFrom_blank]
        split
        · exact hmove
        · next hdropped => rw [ih kept, wordRuns_append_blank hdropped]
      · rw [squeezeFrom_of_ne hc, hmove]

/-- A blank that stays is still followed by a word when the rest has been squeezed. -/
theorem keepsApart_squeezeFrom {last : Option Char} {rest : List Char}
    (h : keepsApart last rest = true) (last' : Option Char) :
    keepsApart last (squeezeFrom last' rest) = true := by
  cases rest with
  | nil => exact h
  | cons next rest =>
      have hnext : next ≠ ' ' := by
        rintro rfl
        simp [keepsApart, isWordChar_blank] at h
      rw [squeezeFrom_of_ne hnext]
      exact h

/-- Each blank that stays has a word on either side. -/
theorem keepsApart_of_squeezeFrom_eq {last : Option Char} {cs before after : List Char}
    (h : squeezeFrom last cs = before ++ ' ' :: after) :
    keepsApart (before.getLast?.or last) after = true := by
  fun_induction squeezeFrom last cs generalizing before with
  | case1 => simp at h
  | case2 last rest hkept ih =>
      cases before with
      | nil =>
          obtain rfl : squeezeFrom (some ' ') rest = after := by simpa using h
          exact keepsApart_squeezeFrom hkept _
      | cons b before =>
          obtain ⟨rfl, hbefore⟩ := List.cons_eq_cons.mp h
          simpa [List.getLast?_cons] using ih hbefore
  | case3 last rest hdropped ih => exact ih h
  | case4 last c rest hc ih =>
      cases before with
      | nil => exact absurd (List.cons_eq_cons.mp h).1 hc
      | cons b before =>
          obtain ⟨rfl, hbefore⟩ := List.cons_eq_cons.mp h
          simpa [List.getLast?_cons] using ih hbefore

/-- What was squeezed once has nothing more to give. -/
theorem squeezeFrom_squeezeFrom (last : Option Char) (cs : List Char) :
    squeezeFrom last (squeezeFrom last cs) = squeezeFrom last cs := by
  fun_induction squeezeFrom last cs with
  | case1 => rfl
  | case2 last rest hkept ih =>
      rw [squeezeFrom_blank, if_pos (keepsApart_squeezeFrom hkept _), ih]
  | case3 last rest hdropped ih => exact ih
  | case4 last c rest hc ih => rw [squeezeFrom_of_ne hc, ih]

/-! ### Rows of blanks -/

/-- The second text is the first one with some of its blanks repeated. -/
inductive Widened : List Char → List Char → Prop
  | nil : Widened [] []
  | char (c : Char) {cs ds : List Char} (h : Widened cs ds) : Widened (c :: cs) (c :: ds)
  | blanks (n : Nat) {cs ds : List Char} (h : Widened cs ds) :
      Widened (' ' :: cs) (List.replicate (n + 1) ' ' ++ ds)

theorem Widened.head?_eq {cs ds : List Char} (h : Widened cs ds) : ds.head? = cs.head? := by
  cases h <;> rfl

theorem keepsApart_congr {rest rest' : List Char} (h : rest'.head? = rest.head?)
    (last : Option Char) : keepsApart last rest' = keepsApart last rest := by
  rw [Bool.eq_iff_iff, keepsApart_iff, keepsApart_iff, h]

/-- Of a row of blanks, only the last one can stay. -/
theorem squeezeFrom_blanks (last : Option Char) (n : Nat) (rest : List Char) :
    squeezeFrom last (List.replicate (n + 1) ' ' ++ rest) = squeezeFrom last (' ' :: rest) := by
  induction n with
  | zero => rfl
  | succ n ih =>
      have hblank : ¬ keepsApart last (List.replicate (n + 1) ' ' ++ rest) = true := by
        rw [keepsApart_iff]
        simp [List.replicate_succ, isWordChar_blank]
      rw [List.replicate_succ, List.cons_append, squeezeFrom_blank, if_neg hblank, ih]

theorem Widened.squeezeFrom_eq {cs ds : List Char} (h : Widened cs ds) (last : Option Char) :
    squeezeFrom last ds = squeezeFrom last cs := by
  induction h generalizing last with
  | nil => rfl
  | char c h ih =>
      rw [squeezeFrom, squeezeFrom, keepsApart_congr h.head?_eq, ih, ih, ih]
  | blanks n h ih =>
      rw [squeezeFrom_blanks, squeezeFrom_blank, squeezeFrom_blank, keepsApart_congr h.head?_eq,
        ih, ih]

/-- **Squeezing.** A squeezed text is the text without some of its blanks. It has the same words, in
the same order, and each blank that is left stands between two of them. Squeezing it again changes
nothing, and so does repeating blanks before: in particular a type is shown the same however many
blanks part its tokens. -/
theorem squeeze_keeps_words (cs : List Char) :
    ((squeeze cs).Sublist cs ∧ (squeeze cs).filter (· ≠ ' ') = cs.filter (· ≠ ' ')) ∧
    wordRuns (squeeze cs) = wordRuns cs ∧
    (∀ before after, squeeze cs = before ++ ' ' :: after →
      (∃ p ∈ before.getLast?, isWordChar p = true) ∧ ∃ n ∈ after.head?, isWordChar n = true) ∧
    squeeze (squeeze cs) = squeeze cs ∧
    (∀ ds, Widened cs ds → squeeze ds = squeeze cs) ∧
    ∀ (t : RustType) (ds : List Char), Widened (Tree.textOf t.tokens).toList ds →
      String.ofList (squeeze ds) = t.shown := by
  refine ⟨⟨squeezeFrom_sublist none cs, filter_squeezeFrom none cs⟩,
    wordRuns_append_squeezeFrom [] cs, ?_, squeezeFrom_squeezeFrom none cs,
    fun ds h => h.squeezeFrom_eq none, ?_⟩
  · intro before after h
    have hapart := keepsApart_of_squeezeFrom_eq h
    rw [Option.or_none] at hapart
    exact keepsApart_iff.mp hapart
  · intro t ds h
    exact congrArg String.ofList (h.squeezeFrom_eq none)

end ClientTraits.Rust
