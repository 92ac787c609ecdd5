import Mathlib.Data.List.DropRight
import ClientTraits.Request.Element
import ClientTraits.Proofs.Text.Split

/-!
# One-line forms of headers and query items

A line is cut in two at its first delimiter, and both sides lose the blanks around them. So a line
stands for a pair exactly if it spells the pair: the trimmed name and the trimmed value, with any
blanks around them and the delimiter between them, which the name does not hold
(`Text.SpellsPair`). The value may hold the delimiter again. Headers and query items are read alike,
apart from the delimiter (`Text.ReadsPairs`), and what was read is read again from the one-line form
(`lines_spell_pairs`).

## Proof shape

Cutting and trimming are each described without regard to how they are done: the text before the
cut has no delimiter (`splitChars_eq_some_iff`), and a trimmed text is what is left between blanks
(`exists_append_trimChars`, `trimChars_append`). No blank is a delimiter, so that blanks around the
name do not move the cut (`pairAt_eq_some_iff_spellsPair`).
-/

namespace ClientTraits

namespace Text

/-! ### Trimming -/

/-- All characters are white space. -/
def AllBlank (cs : List Char) : Prop :=
  ∀ c ∈ cs, isBlank c = true

instance (cs : List Char) : Decidable (AllBlank cs) :=
  List.decidableBAll (fun c => isBlank c = true) cs

/-- There is no white space at either end. -/
def Trimmed (cs : List Char) : Prop :=
  (∀ c ∈ cs.head?, isBlank c = false) ∧ ∀ c ∈ cs.getLast?, isBlank c = false

theorem allBlank_nil : AllBlank [] := by
  decide

theorem dropWhile_isBlank_append {blanks cs : List Char} (hblanks : AllBlank blanks)
    (hcs : ∀ c ∈ cs.head?, isBlank c = false) : (blanks ++ cs).dropWhile isBlank = cs := by
  rw [List.dropWhile_append_of_pos hblanks]
  cases cs with
  | nil => rfl
  | cons c rest => simp [hcs c (by simp)]

theorem rdropWhile_isBlank_append {blanks cs : List Char} (hblanks : AllBlank blanks)
    (hcs : ∀ c ∈ cs.getLast?, isBlank c = false) : (cs ++ blanks).rdropWhile isBlank = cs := by
  have hreverse : AllBlank blanks.reverse := by
    intro c hc
    exact hblanks c (List.mem_reverse.mp hc)
  rw [List.rdropWhile, List.reverse_append, dropWhile_isBlank_append hreverse (by simpa using hcs),
    List.reverse_reverse]

theorem trimChars_eq (cs : List Char) :
    trimChars cs = (cs.dropWhile isBlank).rdropWhile isBlank :=
  rfl

/-- The blanks at both ends go, and nothing else does. -/
theorem exists_append_trimChars (cs : List Char) :
    ∃ before after, AllBlank before ∧ AllBlank after ∧ cs = before ++ trimChars cs ++ after := by
  refine ⟨cs.takeWhile isBlank, (cs.dropWhile isBlank).rtakeWhile isBlank, ?_, ?_, ?_⟩
  · intro c hc
    exact List.mem_takeWhile_imp hc
  · intro c hc
    exact List.mem_rtakeWhile_imp hc
  · rw [trimChars_eq, List.append_assoc, List.rdropWhile_append_rtakeWhile,
      List.takeWhile_append_dropWhile]

theorem trimmed_trimChars (cs : List Char) : Trimmed (trimChars cs) := by
  rw [trimChars_eq]
  constructor
  · -- What is left begins as it did before the blanks at its end went.
    intro c hc
    obtain ⟨after, hafter⟩ := List.rdropWhile_prefix isBlank (l := cs.dropWhile isBlank)
    have hhead : (cs.dropWhile isBlank).head? = some c := by
      rw [← hafter, List.head?_append, Option.mem_def.mp hc, Option.some_or]
    have hnot := List.head?_dropWhile_not isBlank cs
    rw [hhead] at hnot
    exact hnot
  · intro c hc
    obtain ⟨hne, rfl⟩ := List.mem_getLast?_eq_getLast hc
    simpa using List.rdropWhile_last_not isBlank _ hne

/-- A trimmed text is what is left between blanks. -/
theorem trimChars_append {before cs after : List Char} (hbefore : AllBlank before)
    (hcs : Trimmed cs) (hafter : AllBlank after) : trimChars (before ++ cs ++ after) = cs := by
  rw [trimChars_eq, List.append_assoc]
  cases cs with
  | nil =>
      have hall : AllBlank (before ++ after) := List.forall_mem_append.mpr ⟨hbefore, hafter⟩
      rw [List.nil_append, List.dropWhile_eq_nil_iff.mpr hall, List.rdropWhile_nil]
  | cons c rest =>
      rw [dropWhile_isBlank_append hbefore (by simpa using hcs.1),
        rdropWhile_isBlank_append hafter hcs.2]

/-! ### Pairs -/

/-- The line spells the pair: the trimmed name and the trimmed value, each with any blanks around
it, and the delimiter between them, which is not in the name. -/
def SpellsPair (delimiter : Char) (name value line : String) : Prop :=
  delimiter ∉ name.toList ∧ Trimmed name.toList ∧ Trimmed value.toList ∧
    ∃ a b c d : List Char, AllBlank a ∧ AllBlank b ∧ AllBlank c ∧ AllBlank d ∧
      line.toList = (a ++ name.toList ++ b) ++ delimiter :: (c ++ value.toList ++ d)

/-- The two sides of a line, trimmed. -/
def pairAt (delimiter : Char) (line : String) : Option (String × String) :=
  (splitFirst delimiter line).map fun (name, value) => (trim name, trim value)

section Pairs

variable {delimiter : Char} {name value line : String}

theorem pairAt_eq_none_iff : pairAt delimiter line = none ↔ delimiter ∉ line.toList := by
  rw [pairAt, splitFirst, Option.map_eq_none_iff, Option.map_eq_none_iff, splitChars_eq_none_iff]

/-- The sides of a line are those at its first delimiter. -/
theorem pairAt_eq_some_iff : pairAt delimiter line = some (name, value) ↔
    ∃ before after : String, line.toList = before.toList ++ delimiter :: after.toList ∧
      delimiter ∉ before.toList ∧ trim before = name ∧ trim after = value := by
  simp only [pairAt, splitFirst, Option.map_eq_some_iff, Prod.exists, splitChars_eq_some_iff,
    Prod.mk.injEq]
  constructor
  · rintro ⟨_, _, ⟨before, after, ⟨hbefore, hline⟩, rfl, rfl⟩, hname, hvalue⟩
    exact ⟨String.ofList before, String.ofList after, by simpa using hline, by simpa using hbefore,
      hname, hvalue⟩
  · rintro ⟨before, after, hline, hbefore, hname, hvalue⟩
    exact ⟨before, after, ⟨before.toList, after.toList, ⟨hbefore, hline⟩, by simp, by simp⟩, hname,
      hvalue⟩

theorem trim_eq_iff {s t : String} : trim s = t ↔ trimChars s.toList = t.toList := by
  rw [trim, ← String.toList_inj, String.toList_ofList]

/-- A line is read as the pair that it spells. -/
theorem pairAt_eq_some_iff_spellsPair (hdelimiter : isBlank delimiter = false) :
    pairAt delimiter line = some (name, value) ↔ SpellsPair delimiter name value line := by
  have hblanks : ∀ cs, AllBlank cs → delimiter ∉ cs := by
    intro cs hcs hmem
    rw [hcs delimiter hmem] at hdelimiter
    cases hdelimiter
  rw [pairAt_eq_some_iff]
  constructor
  · rintro ⟨before, after, hline, hbefore, hname, hvalue⟩
    rw [trim_eq_iff] at hname hvalue
    obtain ⟨a, b, ha, hb, hab⟩ := exists_append_trimChars before.toList
    obtain ⟨c, d, hc, hd, hcd⟩ := exists_append_trimChars after.toList
    have hnameTrimmed := trimmed_trimChars before.toList
    have hvalueTrimmed := trimmed_trimChars after.toList
    rw [hname] at hab hnameTrimmed
    rw [hvalue] at hcd hvalueTrimmed
    rw [hab] at hbefore
    refine ⟨fun hmem => hbefore (by simp [hmem]), hnameTrimmed, hvalueTrimmed, a, b, c, d, ha, hb,
      hc, hd, ?_⟩
    rw [hline, hab, hcd]
  · rintro ⟨hmem, hname, hvalue, a, b, c, d, ha, hb, hc, hd, hline⟩
    refine ⟨String.ofList (a ++ name.toList ++ b), String.ofList (c ++ value.toList ++ d), ?_, ?_,
      ?_, ?_⟩
    · simpa using hline
    · simp [hmem, hblanks a ha, hblanks b hb]
    · rw [trim_eq_iff, String.toList_ofList, trimChars_append ha hname hb]
    · rw [trim_eq_iff, String.toList_ofList, trimChars_append hc hvalue hd]

/-- A pair is spelled also with one gap only, in front of the value. -/
theorem SpellsPair.of_spellsPair {line' gap : String} (h : SpellsPair delimiter name value line)
    (hgap : AllBlank gap.toList)
    (hline : line'.toList = name.toList ++ delimiter :: (gap.toList ++ value.toList)) :
    SpellsPair delimiter name value line' := by
  obtain ⟨hmem, hname, hvalue, -⟩ := h
  exact ⟨hmem, hname, hvalue, [], [], gap.toList, [], allBlank_nil, allBlank_nil, hgap,
    allBlank_nil, by simpa using hline⟩

end Pairs

/-- Lines are read by this delimiter as pairs, and refused only where there is no delimiter. What
was read is read again from its one-line form. -/
structure ReadsPairs {α : Type} (delimiter : Char) (ofLine : String → Except LineError α)
    (pair : String → String → α) (refusal : String → LineError)
    (written : String → String → String) : Prop where
  refused : ∀ line e, ofLine line = .error e ↔ delimiter ∉ line.toList ∧ e = refusal line
  /-- The pair is that of the two sides of the first delimiter, trimmed. -/
  cut : ∀ line x, ofLine line = .ok x ↔ ∃ before after : String,
    line = before ++ String.singleton delimiter ++ after ∧ delimiter ∉ before.toList ∧
      x = pair (trim before) (trim after)
  /-- The pair is the one that the line spells. -/
  spelled : ∀ line x, ofLine line = .ok x ↔
    ∃ name value, x = pair name value ∧ SpellsPair delimiter name value line
  reread : ∀ line name value, ofLine line = .ok (pair name value) →
    ofLine (written name value) = .ok (pair name value)

theorem ReadsPairs.of_pairAt {α : Type} {delimiter : Char} {ofLine : String → Except LineError α}
    {pair : String → String → α} {refusal : String → LineError}
    {written : String → String → String} (hdelimiter : isBlank delimiter = false)
    (hread : ∀ line, ofLine line = match pairAt delimiter line with
      | some (name, value) => .ok (pair name value)
      | none => .error (refusal line))
    (hpair : ∀ name value name' value', pair name value = pair name' value' →
      name = name' ∧ value = value')
    (gap : String) (hgap : AllBlank gap.toList)
    (hwritten : ∀ name value, (written name value).toList =
      name.toList ++ delimiter :: (gap.toList ++ value.toList)) :
    ReadsPairs delimiter ofLine pair refusal written := by
  have hok : ∀ line x, ofLine line = .ok x ↔
      ∃ name value, x = pair name value ∧ pairAt delimiter line = some (name, value) := by
    intro line x
    rw [hread]
    cases hsides : pairAt delimiter line with
    | none => simp
    | some sides =>
        simp only [Except.ok.injEq, Option.some.injEq]
        constructor
        · intro h
          exact ⟨sides.1, sides.2, h.symm, rfl⟩
        · intro h
          obtain ⟨name, value, hx, hsides⟩ := h
          rw [hx, hsides]
  have hspelled : ∀ line x, ofLine line = .ok x ↔
      ∃ name value, x = pair name value ∧ SpellsPair delimiter name value line := by
    intro line x
    simp only [hok, pairAt_eq_some_iff_spellsPair hdelimiter]
  refine ⟨?_, ?_, hspelled, ?_⟩
  · intro line e
    rw [hread, ← pairAt_eq_none_iff]
    cases hsides : pairAt delimiter line with
    | none => simp [eq_comm]
    | some sides => simp
  · intro line x
    simp only [hok, pairAt_eq_some_iff]
    constructor
    · intro h
      obtain ⟨name, value, hx, before, after, hline, hbefore, hname, hvalue⟩ := h
      refine ⟨before, after, String.toList_inj.mp (by simpa using hline), hbefore, ?_⟩
      rw [hx, hname, hvalue]
    · intro h
      obtain ⟨before, after, hline, hbefore, hx⟩ := h
      exact ⟨_, _, hx, before, after, by simp [hline], hbefore, rfl, rfl⟩
  · intro line name value h
    obtain ⟨name', value', hpair', hspells⟩ := (hspelled _ _).mp h
    obtain ⟨rfl, rfl⟩ := hpair _ _ _ _ hpair'
    exact (hspelled _ _).mpr ⟨name, value, rfl, hspells.of_spellsPair hgap (hwritten name value)⟩

end Text

/-- **Lines of headers and query items.** A header line is refused if it has no `:`, and else read
as the pair that it spells: the two sides of its first `:`, without the white space around them. The
one-line form of what was read is read as the same header. Query lines are read in the same way with
`=`. -/
theorem lines_spell_pairs :
    Text.ReadsPairs ':' Header.ofLine Header.mk .missingColon
        (fun name value => (Header.mk name value).line) ∧
      Text.ReadsPairs '=' QueryItem.ofLine QueryItem.fixed .missingEquals
        (fun name value => name ++ "=" ++ value) := by
  constructor
  · refine .of_pairAt (by decide) ?_ ?_ " " (by decide) ?_
    · intro line
      rw [Header.ofLine, Text.pairAt]
      cases Text.splitFirst ':' line <;> rfl
    · intro name value name' value' h
      exact Header.mk.inj h
    · intro name value
      simp [Header.line]
  · refine .of_pairAt (by decide) ?_ ?_ "" (by decide) ?_
    · intro line
      rw [QueryItem.ofLine, Text.pairAt]
      cases Text.splitFirst '=' line <;> rfl
    · intro name value name' value' h
      exact QueryItem.fixed.inj h
    · intro name value
      simp

example : Header.ofLine "\u3000X-Url\t:http://a:1\u00a0" = .ok ⟨"X-Url", "http://a:1"⟩ := by
  decide

end ClientTraits
