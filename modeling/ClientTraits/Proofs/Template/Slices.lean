import ClientTraits.Proofs.Template.Cuts

/-!
# Slices of a template

The machine that cuts a template takes each cut as a slice of the text. A slice can be taken between
characters only (`Sliceable`), and the colon of a name is looked for one byte before the name. In
`Scanner.attempt` the machine runs with these checks, for a limited number of transitions.

No check ever fails, and two transitions for each byte are enough (`Scanner.Sound.attempt`). The
slices and the colons of the names are all bytes of the text, each one once and in order
(`cuts_slice_template`).

## Proof shape

`Scanner.Sound` is the invariant: what was cut covers the bytes up to the literal text that waits,
and behind that, depending on the state, stands a colon or a colon and the beginning of a name. One
transition keeps it (`Scanner.Sound.step`). That all ends are between characters rests on one fact: the
machine cuts beside bytes of ASCII, and a byte of ASCII is a character by itself
(`isValid_of_ascii`). In literal text the position may be inside of a character.
-/

namespace ClientTraits.Template

/-! ### Positions between characters -/

/-- A slice can be taken: it does not end before it begins, and both ends are between characters of
the text, or at an end of it. -/
def Sliceable (template : String) (start stop : Nat) : Prop :=
  start ≤ stop ∧ (String.Pos.Raw.mk start).IsValid template ∧
    (String.Pos.Raw.mk stop).IsValid template

instance (template : String) (start stop : Nat) : Decidable (Sliceable template start stop) :=
  inferInstanceAs (Decidable (_ ∧ _ ∧ _))

/-- The byte of a text at a position. -/
def byteAt? (template : String) (i : Nat) : Option UInt8 :=
  (bytesOf template.toList)[i]?

theorem toUTF8_eq_bytesOf (template : String) :
    template.toUTF8 = (bytesOf template.toList).toByteArray :=
  String.utf8Encode_toList.symm

theorem size_toUTF8 (template : String) : template.toUTF8.size = offset template.toList := by
  rw [toUTF8_eq_bytesOf]
  exact List.size_toByteArray

theorem byteAt?_eq_some {template : String} {i : Nat} (h : i < template.toUTF8.size) :
    byteAt? template i = some template.toUTF8[i] := by
  have hlt : i < (bytesOf template.toList).length := by
    rw [size_toUTF8] at h
    exact h
  simp only [byteAt?, toUTF8_eq_bytesOf, List.getElem_toByteArray]
  exact List.getElem?_eq_getElem hlt

theorem isValid_offset {template : String} (before after : List Char)
    (h : template.toList = before ++ after) :
    (String.Pos.Raw.mk (offset before)).IsValid template := by
  refine String.Pos.Raw.isValid_iff_exists_append.mpr
    ⟨String.ofList before, String.ofList after, ?_, ?_⟩
  · rw [← String.ofList_append, ← h, String.ofList_toList]
  · ext
    exact List.size_toByteArray.symm

theorem offset_cons (c : Char) (cs : List Char) :
    offset (c :: cs) = (String.utf8EncodeChar c).length + offset cs :=
  List.length_append

/-- A byte of ASCII is a character by itself. -/
theorem exists_append_of_ascii {text : List Char} {i : Nat} {b : UInt8} (hb : b.toNat < 128)
    (h : (bytesOf text)[i]? = some b) :
    ∃ before c after, text = before ++ c :: after ∧ i = offset before ∧
      offset (before ++ [c]) = i + 1 := by
  induction text generalizing i with
  | nil => simp at h
  | cons c rest ih =>
      rw [bytesOf_cons] at h
      by_cases hi : i < (String.utf8EncodeChar c).length
      · rw [List.getElem?_append_left hi] at h
        have hc : c.toNat ≤ 127 := by
          by_contra hlarge
          have := le_toNat_of_mem_utf8EncodeChar (Nat.not_le.mp hlarge) (List.mem_of_getElem? h)
          omega
        have hsingle := utf8EncodeChar_of_le hc
        rw [hsingle, List.length_singleton, Nat.lt_one_iff] at hi
        exact ⟨[], c, rest, rfl, hi, by simp [offset, hsingle, hi]⟩
      · rw [List.getElem?_append_right (Nat.not_lt.mp hi)] at h
        obtain ⟨before, d, after, rfl, hposition, hnext⟩ := ih h
        refine ⟨c :: before, d, after, rfl, ?_, ?_⟩
        · rw [offset_cons, ← hposition]
          omega
        · rw [List.cons_append, offset_cons, hnext]
          omega

/-- On both sides of a byte of ASCII are characters, or ends of the text. -/
theorem isValid_of_ascii {template : String} {i : Nat} {b : UInt8} (hb : b.toNat < 128)
    (h : byteAt? template i = some b) :
    (String.Pos.Raw.mk i).IsValid template ∧ (String.Pos.Raw.mk (i + 1)).IsValid template := by
  obtain ⟨before, c, after, htext, rfl, hnext⟩ := exists_append_of_ascii hb h
  refine ⟨isValid_offset before (c :: after) htext,
    hnext ▸ isValid_offset (before ++ [c]) after ?_⟩
  rw [htext, List.append_assoc, List.singleton_append]

/-! ### Cuts as slices -/

/-- The cut can be taken as a slice and is not empty; in front of a name stands its colon. -/
def Cut.IsSlice (template : String) : Cut → Prop
  | literal start stop => start < stop ∧ Sliceable template start stop
  | placeholder start stop => start < stop ∧ Sliceable template start stop ∧
      ∃ colon, start = colon + 1 ∧ byteAt? template colon = some 0x3A ∧
        (String.Pos.Raw.mk colon).IsValid template

/-- The bytes that a cut accounts for: those of its slice, and the colon in front of a name. -/
def Cut.positions : Cut → List Nat
  | literal start stop => List.range' start (stop - start)
  | placeholder start stop => (start - 1) :: List.range' start (stop - start)

theorem range_append_range' {a b : Nat} (h : a ≤ b) :
    List.range a ++ List.range' a (b - a) = List.range b := by
  rw [List.range_eq_range', List.range_eq_range']
  have happend := List.range'_append_1 (s := 0) (m := a) (n := b - a)
  rwa [Nat.zero_add, Nat.add_sub_cancel' h] at happend

theorem isSlice_of_mem_literalCut {template : String} {start stop : Nat}
    (h : Sliceable template start stop) {cut : Cut} (hcut : cut ∈ literalCut start stop) :
    cut.IsSlice template := by
  rw [literalCut] at hcut
  split at hcut
  · next hlt =>
    rw [List.mem_singleton] at hcut
    exact hcut ▸ ⟨hlt, h⟩
  · exact absurd hcut List.not_mem_nil

/-- A literal cut accounts for all bytes from its start to its end, if there are any. -/
theorem positions_literalCut (start stop : Nat) :
    (literalCut start stop).flatMap Cut.positions = List.range' start (stop - start) := by
  rw [literalCut]
  split
  · exact List.append_nil _
  · next hnot =>
    rw [Nat.sub_eq_zero_of_le (Nat.not_lt.mp hnot)]
    rfl

namespace Scanner

/-! ### The machine with checks -/

/-- The slices that are taken where a name ends: the name, and the literal text before its colon if
there is any. The colon is found one byte before the name. -/
def CanCut (template : String) (s : Scanner) (start : Nat) : Prop :=
  0 < start ∧ Sliceable template start s.position ∧
    (s.literalStart < start - 1 → Sliceable template s.literalStart (start - 1))

instance (template : String) (s : Scanner) (start : Nat) : Decidable (s.CanCut template start) :=
  inferInstanceAs (Decidable (_ ∧ _ ∧ (_ → _)))

/-- A transition, if the slices that it takes can be taken. -/
def step? (template : String) (s : Scanner) (b : UInt8) : Option Scanner :=
  match s.reading with
  | .name start => if isNameByte b ∨ s.CanCut template start then some (s.step b) else none
  | _ => some (s.step b)

/-- The cuts at the end of the text, if the slices that are left can be taken. -/
def finish? (template : String) (s : Scanner) : Option (List Cut) :=
  match s.reading with
  | .name start => if s.CanCut template start then some s.finish else none
  | _ =>
    if s.literalStart < s.position → Sliceable template s.literalStart s.position then
      some s.finish
    else none

/-- What the machine with checks finds with at most this many transitions. -/
def attempt (template : String) (s : Scanner) : Nat → Option (List Cut)
  | 0 => if s.position < template.toUTF8.size then none else s.finish? template
  | fuel + 1 =>
    if h : s.position < template.toUTF8.size then do
      attempt template (← s.step? template template.toUTF8[s.position]) fuel
    else s.finish? template

/-! ### What the machine keeps -/

/-- What stands in front of the position in each state: nothing in particular, a colon, or a colon
and the beginning of a name. -/
def Reads (template : String) (s : Scanner) : Reading → Prop
  | .literal => True
  | .colon => ∃ colon, s.literalStart ≤ colon ∧ byteAt? template colon = some 0x3A ∧
      s.position = colon + 1
  | .name start => ∃ colon, s.literalStart ≤ colon ∧ byteAt? template colon = some 0x3A ∧
      start = colon + 1 ∧ start < s.position ∧ (String.Pos.Raw.mk s.position).IsValid template

/-- The cuts cover the text up to the literal text that is not cut yet, and that begins between
characters. -/
structure Sound (template : String) (s : Scanner) : Prop where
  literalStart_isValid : (String.Pos.Raw.mk s.literalStart).IsValid template
  literalStart_le : s.literalStart ≤ s.position
  position_le : s.position ≤ offset template.toList
  reads : s.Reads template s.reading
  isSlice_cuts : ∀ cut ∈ s.cuts, cut.IsSlice template
  positions_cuts : s.cuts.reverse.flatMap Cut.positions = List.range s.literalStart

variable {template : String} {s : Scanner}

theorem sound_initial (template : String) : initial.Sound template where
  literalStart_isValid := isValid_offset [] template.toList rfl
  literalStart_le := Nat.le_refl 0
  position_le := Nat.zero_le _
  reads := trivial
  isSlice_cuts := by simp [initial]
  positions_cuts := rfl

/-- Where a name ends the slices can be taken, and the cuts then cover the text up to there. -/
theorem Sound.cutName {start : Nat} (h : s.Sound template) (hreading : s.reading = .name start) :
    s.CanCut template start ∧ (s.cutName start).Sound template := by
  have hreads := h.reads
  rw [hreading] at hreads
  obtain ⟨colon, hfront, hcolon, rfl, hstart, hposition⟩ := hreads
  obtain ⟨hcolonValid, hstartValid⟩ := isValid_of_ascii (by decide) hcolon
  have hname : Sliceable template (colon + 1) s.position := ⟨hstart.le, hstartValid, hposition⟩
  have hliteral : Sliceable template s.literalStart colon :=
    ⟨hfront, h.literalStart_isValid, hcolonValid⟩
  refine ⟨⟨Nat.succ_pos _, hname, fun _ => hliteral⟩, hposition, Nat.le_refl _, h.position_le,
    trivial, ?_, ?_⟩
  · intro cut hcut
    rcases List.mem_cons.mp hcut with rfl | hcut
    · exact ⟨hstart, hname, colon, rfl, hcolon, hcolonValid⟩
    · rcases List.mem_append.mp hcut with hcut | hcut
      · exact isSlice_of_mem_literalCut hliteral hcut
      · exact h.isSlice_cuts cut hcut
  · have hpositions : s.position - colon = s.position - (colon + 1) + 1 := by omega
    calc
      (s.cutName (colon + 1)).cuts.reverse.flatMap Cut.positions
        = s.cuts.reverse.flatMap Cut.positions ++
            ((literalCut s.literalStart colon).flatMap Cut.positions ++
              (Cut.placeholder (colon + 1) s.position).positions) := by
          have hcuts : (s.cutName (colon + 1)).cuts =
            .placeholder (colon + 1) s.position :: (literalCut s.literalStart colon ++ s.cuts) := rfl
          rw [hcuts]
          simp [reverse_literalCut]
      _ = List.range s.literalStart ++ List.range' s.literalStart (colon - s.literalStart) ++
            List.range' colon (s.position - colon) := by
          rw [h.positions_cuts, positions_literalCut, Cut.positions, hpositions, List.range'_succ,
            List.append_assoc]
          rfl
      _ = List.range s.position := by
          rw [range_append_range' hfront, range_append_range' (by omega)]

/-- The machine may go on in another state, if that is right about what stands in front. -/
theorem Sound.goOn (h : s.Sound template) {reading : Reading} {position : Nat}
    (hfront : s.position ≤ position) (hback : position ≤ offset template.toList)
    (hreads : Reads template { s with reading, position } reading) :
    Sound template { s with reading, position } where
  literalStart_isValid := h.literalStart_isValid
  literalStart_le := h.literalStart_le.trans hfront
  position_le := hback
  reads := hreads
  isSlice_cuts := h.isSlice_cuts
  positions_cuts := h.positions_cuts

section Step

variable {b : UInt8}

theorem Sound.step_literal (h : s.Sound template) (hreading : s.reading = .literal)
    (hb : byteAt? template s.position = some b) : (s.step b).Sound template := by
  have hlt : s.position < offset template.toList := (List.getElem?_eq_some_iff.mp hb).1
  rw [step, hreading]
  refine h.goOn (Nat.le_succ _) hlt ?_
  split
  · next hcolon => exact ⟨s.position, h.literalStart_le, hcolon ▸ hb, rfl⟩
  · trivial

theorem Sound.step_colon (h : s.Sound template) (hreading : s.reading = .colon)
    (hb : byteAt? template s.position = some b) : (s.step b).Sound template := by
  have hlt : s.position < offset template.toList := (List.getElem?_eq_some_iff.mp hb).1
  have hreads := h.reads
  rw [hreading] at hreads
  obtain ⟨colon, hfront, hcolon, hposition⟩ := hreads
  rw [step, hreading]
  dsimp only
  split
  · next hsmall =>
    have hascii : b.toNat < 128 :=
      Nat.lt_of_le_of_lt (UInt8.le_iff_toNat_le.mp hsmall.2) (by decide)
    exact h.goOn (Nat.le_succ _) hlt
      ⟨colon, hfront, hcolon, hposition, Nat.lt_succ_self _, (isValid_of_ascii hascii hb).2⟩
  · exact h.goOn (Nat.le_refl _) h.position_le trivial

theorem Sound.step_name {start : Nat} (h : s.Sound template) (hreading : s.reading = .name start)
    (hb : byteAt? template s.position = some b) : (s.step b).Sound template := by
  have hlt : s.position < offset template.toList := (List.getElem?_eq_some_iff.mp hb).1
  have hreads := h.reads
  rw [hreading] at hreads
  obtain ⟨colon, hfront, hcolon, hname, hstart, -⟩ := hreads
  rw [step, hreading]
  dsimp only
  split
  · next hword =>
    have hascii : b.toNat < 128 := by
      have := isNameByte_iff_toNat.mp hword
      omega
    exact h.goOn (Nat.le_succ _) hlt
      ⟨colon, hfront, hcolon, hname, Nat.lt_succ_of_lt hstart, (isValid_of_ascii hascii hb).2⟩
  · exact (h.cutName hreading).2

/-- A transition keeps the invariant, and the slices that it takes can be taken. -/
theorem Sound.step (h : s.Sound template) {b : UInt8}
    (hb : byteAt? template s.position = some b) :
    s.step? template b = some (s.step b) ∧ (s.step b).Sound template := by
  rw [step?]
  cases hreading : s.reading with
  | literal => exact ⟨rfl, h.step_literal hreading hb⟩
  | colon => exact ⟨rfl, h.step_colon hreading hb⟩
  | name start => exact ⟨if_pos (Or.inr (h.cutName hreading).1), h.step_name hreading hb⟩

end Step

theorem finish_eq_literalCut (hreading : ∀ start, s.reading ≠ .name start) :
    s.finish = literalCut s.literalStart s.position ++ s.cuts := by
  rw [finish, literalCut]
  cases hs : s.reading with
  | name start => exact absurd hs (hreading start)
  | literal => dsimp only; split <;> rfl
  | colon => dsimp only; split <;> rfl

/-- At the end of the text the slices that are left can be taken, and then all is covered. -/
theorem Sound.finish (h : s.Sound template) (hend : s.position = offset template.toList) :
    s.finish? template = some s.finish ∧ (∀ cut ∈ s.finish, cut.IsSlice template) ∧
      s.finish.reverse.flatMap Cut.positions = List.range (offset template.toList) := by
  have hendValid : (String.Pos.Raw.mk s.position).IsValid template :=
    hend ▸ isValid_offset template.toList [] (List.append_nil _).symm
  have hrest : Sliceable template s.literalStart s.position :=
    ⟨h.literalStart_le, h.literalStart_isValid, hendValid⟩
  have hliteral (hreading : ∀ start, s.reading ≠ .name start) :
      (∀ cut ∈ s.finish, cut.IsSlice template) ∧
        s.finish.reverse.flatMap Cut.positions = List.range (offset template.toList) := by
    rw [finish_eq_literalCut hreading, List.reverse_append, List.flatMap_append,
      reverse_literalCut, h.positions_cuts, positions_literalCut,
      range_append_range' h.literalStart_le, hend]
    refine ⟨fun cut hcut => ?_, rfl⟩
    rcases List.mem_append.mp hcut with hcut | hcut
    · exact isSlice_of_mem_literalCut (hend ▸ hrest) hcut
    · exact h.isSlice_cuts cut hcut
  rw [finish?]
  cases hreading : s.reading with
  | literal => exact ⟨if_pos fun _ => hrest, hliteral (by simp [hreading])⟩
  | colon => exact ⟨if_pos fun _ => hrest, hliteral (by simp [hreading])⟩
  | name start =>
      obtain ⟨hcan, hcut⟩ := h.cutName hreading
      have hfinish : s.finish = (s.cutName start).cuts := by
        rw [Scanner.finish, hreading]
        exact if_neg (Nat.lt_irrefl _)
      rw [hfinish]
      exact ⟨if_pos hcan, hcut.isSlice_cuts, hend ▸ hcut.positions_cuts⟩

/-- With transitions enough the machine with checks finds what the machine finds: slices that cover
the text. The number of transitions left is the induction's. -/
theorem Sound.attempt (h : s.Sound template) {fuel : Nat}
    (hfuel : 2 * (template.toUTF8.size - s.position) + s.rank ≤ fuel) :
    s.attempt template fuel = some (s.run template.toUTF8) ∧
      (∀ cut ∈ s.run template.toUTF8, cut.IsSlice template) ∧
      (s.run template.toUTF8).reverse.flatMap Cut.positions =
        List.range (offset template.toList) := by
  have hposition := h.position_le
  rw [← size_toUTF8] at hposition
  induction fuel generalizing s with
  | zero =>
      have hend : s.position = template.toUTF8.size := by omega
      have hnot : ¬ s.position < template.toUTF8.size := by omega
      rw [Scanner.attempt, if_neg hnot, run, dif_neg hnot]
      exact h.finish (hend.trans (size_toUTF8 template))
  | succ fuel ih =>
      by_cases hlt : s.position < template.toUTF8.size
      · obtain ⟨hcheck, hstep⟩ := h.step (byteAt?_eq_some hlt)
        have hless := step_decreases s template.toUTF8[s.position] template.toUTF8.size hlt
        rw [Scanner.attempt, dif_pos hlt, hcheck, run, dif_pos hlt]
        exact ih hstep (by omega) (size_toUTF8 template ▸ hstep.position_le)
      · have hend : s.position = template.toUTF8.size := by omega
        rw [Scanner.attempt, dif_neg hlt, run, dif_neg hlt]
        exact h.finish (hend.trans (size_toUTF8 template))

end Scanner

/-- **A template is cut into slices.** With two transitions for each byte the machine comes to the
end of every text, and whenever it takes a slice, the slice can be taken. The cuts are not empty and
are made between characters, and a colon stands in front of each name. Together with these colons
they account for every byte of the text, once and from left to right. Their texts are the tokens
that are found character by character. -/
theorem cuts_slice_template (template : String) :
    (∀ fuel, 2 * template.utf8ByteSize ≤ fuel →
      Scanner.initial.attempt template fuel = some (cuts template).reverse) ∧
    (∀ cut ∈ cuts template, cut.IsSlice template) ∧
    (cuts template).flatMap Cut.positions = List.range template.utf8ByteSize ∧
    (cuts template).map (Cut.token? template) = (scan template).map some := by
  have hsize : template.utf8ByteSize = template.toUTF8.size := rfl
  have hall {fuel : Nat} (hfuel : 2 * template.utf8ByteSize ≤ fuel) :=
    (Scanner.sound_initial template).attempt hfuel
  obtain ⟨-, hslices, hpositions⟩ := hall (Nat.le_refl _)
  refine ⟨fun fuel hfuel => ?_, fun cut hcut => hslices cut (List.mem_reverse.mp hcut), ?_,
    map_token?_cuts template⟩
  · rw [cuts, List.reverse_reverse]
    exact (hall hfuel).1
  · rw [hsize, size_toUTF8]
    exact hpositions

/-- A colon that starts no name, names side by side, and letters of several bytes around them. -/
def crowdedTemplate : String :=
  "/gé::ville2é:a:b_C:Zü"

theorem cuts_slice_template_crowdedTemplate :
    Scanner.initial.attempt crowdedTemplate 50 = some (cuts crowdedTemplate).reverse ∧
    cuts crowdedTemplate = [.literal 0 5, .placeholder 6 12, .literal 12 14, .placeholder 15 16,
      .placeholder 17 20, .literal 20 24] ∧
    (Cut.placeholder 6 12).IsSlice crowdedTemplate ∧
    (cuts crowdedTemplate).flatMap Cut.positions = List.range 24 ∧
    (cuts crowdedTemplate).map (Cut.token? crowdedTemplate) =
      (scan crowdedTemplate).map some := by
  obtain ⟨hattempt, hslices, hpositions, htokens⟩ := cuts_slice_template crowdedTemplate
  have hfound := hattempt 50 (by decide +kernel)
  have hcuts : cuts crowdedTemplate = [.literal 0 5, .placeholder 6 12, .literal 12 14,
      .placeholder 15 16, .placeholder 17 20, .literal 20 24] := by
    have hrun : Scanner.initial.attempt crowdedTemplate 50 = some [.literal 20 24,
        .placeholder 17 20, .placeholder 15 16, .literal 12 14, .placeholder 6 12,
        .literal 0 5] := by
      decide +kernel
    exact List.reverse_eq_iff.mp (Option.some.inj (hfound.symm.trans hrun))
  exact ⟨hfound, hcuts, hslices _ (by simp [hcuts]), hpositions, htokens⟩

end ClientTraits.Template
