import Mathlib.Data.List.TakeWhile
import ClientTraits.Request.Template

/-!
# The grammar of URL templates

`Template.Grammatical` says which token lists are well formed, without regard to how a text is
scanned: literals are as long as they can be and hold nothing that reads as a placeholder, and names
are as long as they can be. Every text is written by one such list and by no other, and that is the
list that the scanner finds (`eq_scan_iff`). So scanning and writing undo each other.

## Proof shape

A token list is well formed if each of its tokens fits in front of those behind it (`Token.Fits`,
`grammatical_cons`), so that everything is an induction on the list or along the scanner.
One direction shows that the scanner only puts tokens together that fit
(`grammatical_scanChars`). For the other, the text of a token that fits is scanned as that token,
whatever the tokens behind it are (`scanChars_literal`, `scanChars_placeholder`).
-/

namespace ClientTraits.Template

/-! ### Well-formed token lists -/

/-- A lower case letter of ASCII. -/
def IsSmall (c : Char) : Prop :=
  'a' ≤ c ∧ c ≤ 'z'

/-- A letter or a digit of ASCII, or `_`. -/
def IsWordChar (c : Char) : Prop :=
  ('A' ≤ c ∧ c ≤ 'Z') ∨ ('a' ≤ c ∧ c ≤ 'z') ∨ ('0' ≤ c ∧ c ≤ '9') ∨ c = '_'

/-- The characters may stand behind the colon of a placeholder. -/
def IsName (name : List Char) : Prop :=
  ∃ c rest, name = c :: rest ∧ IsSmall c ∧ ∀ d ∈ rest, IsWordChar d

/-- The text has a colon with a lower case letter behind it. -/
def HoldsPlaceholder (text : List Char) : Prop :=
  ∃ c, IsSmall c ∧ [':', c] <:+: text

/-- A token list that keeps to the grammar of templates. -/
structure Grammatical (tokens : List Token) : Prop where
  literal_ne_nil : ∀ text, .literal text ∈ tokens → text ≠ []
  /-- Adjacent literals would be one. -/
  literals_apart : ∀ text text', ¬ [.literal text, .literal text'] <:+: tokens
  literal_plain : ∀ text, .literal text ∈ tokens → ¬ HoldsPlaceholder text
  isName : ∀ name, .placeholder name ∈ tokens → IsName name
  /-- The text behind a name does not continue it. -/
  name_maximal : ∀ before name after, tokens = before ++ .placeholder name :: after →
    ∀ c ∈ (write after).head?, ¬ IsWordChar c

/-- The token may stand in front of the others. -/
def Token.Fits (rest : List Token) : Token → Prop
  | literal text =>
    text ≠ [] ∧ ¬ HoldsPlaceholder text ∧ ∀ text', rest.head? ≠ some (literal text')
  | placeholder name => IsName name ∧ ∀ c ∈ (write rest).head?, ¬ IsWordChar c

theorem grammatical_nil : Grammatical [] where
  literal_ne_nil _ h := absurd h List.not_mem_nil
  literals_apart _ _ h := nomatch List.infix_nil.mp h
  literal_plain _ h := absurd h List.not_mem_nil
  isName _ h := absurd h List.not_mem_nil
  name_maximal before _ _ h := absurd h.symm (by simp)

/-- A token list is well formed if its first token fits and the others are well formed. -/
theorem grammatical_cons {token : Token} {rest : List Token} :
    Grammatical (token :: rest) ↔ token.Fits rest ∧ Grammatical rest := by
  constructor
  · intro h
    have hrest : Grammatical rest :=
      { literal_ne_nil := fun text ht => h.literal_ne_nil text (List.mem_cons_of_mem _ ht)
        literals_apart := fun text text' ht =>
          h.literals_apart text text' (List.infix_cons_iff.mpr (.inr ht))
        literal_plain := fun text ht => h.literal_plain text (List.mem_cons_of_mem _ ht)
        isName := fun name ht => h.isName name (List.mem_cons_of_mem _ ht)
        name_maximal := fun before name after ht =>
          h.name_maximal (token :: before) name after (by rw [ht, List.cons_append]) }
    refine ⟨?_, hrest⟩
    cases token with
    | literal text =>
        have htext : .literal text ∈ .literal text :: rest := List.mem_cons_self
        refine ⟨h.literal_ne_nil text htext, h.literal_plain text htext, ?_⟩
        intro text' hhead
        obtain ⟨more, rfl⟩ := List.head?_eq_some_iff.mp hhead
        exact h.literals_apart text text' ⟨[], more, rfl⟩
    | placeholder name =>
        exact ⟨h.isName name List.mem_cons_self, h.name_maximal [] name rest rfl⟩
  · rintro ⟨hfits, hrest⟩
    refine ⟨?_, ?_, ?_, ?_, ?_⟩
    · intro text ht
      rcases List.mem_cons.mp ht with rfl | ht
      · exact hfits.1
      · exact hrest.literal_ne_nil text ht
    · intro text text' ht
      rcases List.infix_cons_iff.mp ht with hstart | ht
      · obtain ⟨rfl, hnext⟩ := List.cons_prefix_cons.mp hstart
        obtain ⟨more, rfl⟩ := hnext
        exact hfits.2.2 text' rfl
      · exact hrest.literals_apart text text' ht
    · intro text ht
      rcases List.mem_cons.mp ht with rfl | ht
      · exact hfits.2.1
      · exact hrest.literal_plain text ht
    · intro name ht
      rcases List.mem_cons.mp ht with rfl | ht
      · exact hfits.1
      · exact hrest.isName name ht
    · intro before name after ht
      cases before with
      | nil =>
          obtain ⟨rfl, rfl⟩ := List.cons.inj ht
          exact hfits.2
      | cons first before =>
          exact hrest.name_maximal before name after (List.cons.inj ht).2

theorem holdsPlaceholder_cons {c : Char} {text : List Char} :
    HoldsPlaceholder (c :: text) ↔
      (c = ':' ∧ ∃ d ∈ text.head?, IsSmall d) ∨ HoldsPlaceholder text := by
  simp only [HoldsPlaceholder, List.infix_cons_iff, List.cons_prefix_cons]
  constructor
  · rintro ⟨d, hd, ⟨rfl, more, rfl⟩ | hrest⟩
    · exact Or.inl ⟨rfl, d, rfl, hd⟩
    · exact Or.inr ⟨d, hd, hrest⟩
  · rintro (⟨rfl, d, hhead, hd⟩ | ⟨d, hd, hrest⟩)
    · obtain ⟨more, rfl⟩ := List.head?_eq_some_iff.mp hhead
      exact ⟨d, hd, Or.inl ⟨rfl, more, rfl⟩⟩
    · exact ⟨d, hd, Or.inr hrest⟩

theorem isNameStart_iff {c : Char} : isNameStart c = true ↔ IsSmall c := by
  simp [isNameStart, IsSmall]

theorem isNameRest_iff {c : Char} : isNameRest c = true ↔ IsWordChar c := by
  have hcapital : c.isUpper = true ↔ 'A' ≤ c ∧ c ≤ 'Z' := decide_eq_true_iff
  have hsmall : c.isLower = true ↔ 'a' ≤ c ∧ c ≤ 'z' := Bool.and_eq_true_iff.trans <|
    and_congr decide_eq_true_iff decide_eq_true_iff
  have hdigit : c.isDigit = true ↔ '0' ≤ c ∧ c ≤ '9' := Bool.and_eq_true_iff.trans <|
    and_congr decide_eq_true_iff decide_eq_true_iff
  show ((c.isUpper || c.isLower) || c.isDigit || c == '_') = true ↔ IsWordChar c
  simp [hcapital, hsmall, hdigit, IsWordChar, or_assoc]

theorem not_holdsPlaceholder_nil : ¬ HoldsPlaceholder [] := by
  rintro ⟨c, -, h⟩
  exact nomatch List.infix_nil.mp h

/-! ### Scanning keeps to the grammar -/

@[simp] theorem write_nil : write [] = [] := rfl

@[simp] theorem write_cons (token : Token) (rest : List Token) :
    write (token :: rest) = token.chars ++ write rest := rfl

@[simp] theorem write_consLiteral (c : Char) (tokens : List Token) :
    write (consLiteral c tokens) = c :: write tokens := by
  unfold consLiteral
  split <;> simp [Token.chars]

/-- Writing undoes scanning. -/
theorem write_scanChars (cs : List Char) : write (scanChars cs) = cs := by
  fun_induction scanChars cs with
  | case1 => rfl
  | case2 c rest hc ih => simp [Token.chars, ih, List.takeWhile_append_dropWhile]
  | case3 c rest hc ih => rw [write_consLiteral, ih]
  | case4 c rest _ ih => rw [write_consLiteral, ih]

/-- A character in front of a well-formed list keeps it well formed, unless it is a colon that
makes a placeholder of what is behind it. -/
theorem Grammatical.consLiteral {c : Char} {tokens : List Token} (h : Grammatical tokens)
    (hc : c = ':' → ∀ d ∈ (write tokens).head?, ¬ IsSmall d) :
    Grammatical (consLiteral c tokens) := by
  unfold Template.consLiteral
  split
  · next text rest =>
      -- The literal grows at its front.
      obtain ⟨⟨hne, hplain, hhead⟩, hrest⟩ := grammatical_cons.mp h
      refine grammatical_cons.mpr ⟨⟨by simp, ?_, hhead⟩, hrest⟩
      rw [holdsPlaceholder_cons]
      rintro (⟨hcolon, d, hd, hsmall⟩ | htext)
      · refine hc hcolon d ?_ hsmall
        obtain ⟨more, rfl⟩ := List.head?_eq_some_iff.mp hd
        simp [Token.chars]
      · exact hplain htext
  · next hnot =>
      refine grammatical_cons.mpr ⟨⟨by simp, ?_, ?_⟩, h⟩
      · rw [holdsPlaceholder_cons]
        rintro (⟨-, d, hd, -⟩ | htext)
        · simp at hd
        · exact not_holdsPlaceholder_nil htext
      · intro text' hhead
        obtain ⟨more, rfl⟩ := List.head?_eq_some_iff.mp hhead
        exact hnot text' more rfl

theorem grammatical_scanChars (cs : List Char) : Grammatical (scanChars cs) := by
  fun_induction scanChars cs with
  | case1 => exact grammatical_nil
  | case2 c rest hc ih =>
      refine grammatical_cons.mpr ⟨⟨⟨c, _, rfl, isNameStart_iff.mp hc, ?_⟩, ?_⟩, ih⟩
      · intro d hd
        exact isNameRest_iff.mp (List.mem_takeWhile_imp hd)
      · intro d hd hword
        rw [write_scanChars] at hd
        have hnot := List.head?_dropWhile_not isNameRest rest
        rw [Option.mem_def.mp hd] at hnot
        simp [isNameRest_iff.mpr hword] at hnot
  | case3 c rest hc ih =>
      refine ih.consLiteral fun _ d hd hsmall => ?_
      rw [write_scanChars] at hd
      cases hd
      exact hc (isNameStart_iff.mpr hsmall)
  | case4 c rest hnot ih =>
      refine ih.consLiteral fun hcolon d hd _ => ?_
      rw [write_scanChars] at hd
      obtain ⟨more, rfl⟩ := List.head?_eq_some_iff.mp hd
      exact hnot d more hcolon rfl

/-! ### Texts of well-formed lists -/

/-- A name reaches to the end of its characters and no further. -/
theorem span_isNameRest {name cs : List Char} (hname : ∀ d ∈ name, IsWordChar d)
    (hcs : ∀ c ∈ cs.head?, ¬ IsWordChar c) :
    (name ++ cs).takeWhile isNameRest = name ∧ (name ++ cs).dropWhile isNameRest = cs := by
  have hinside : ∀ d ∈ name, isNameRest d = true := fun d hd => isNameRest_iff.mpr (hname d hd)
  rw [List.takeWhile_append_of_pos hinside, List.dropWhile_append_of_pos hinside]
  cases cs with
  | nil => simp
  | cons c more =>
      have hstop : isNameRest c = false := by
        simpa [← isNameRest_iff] using hcs c rfl
      simp [hstop]

/-- The text of a placeholder is scanned as that placeholder. -/
theorem scanChars_placeholder {name cs : List Char} (hname : IsName name)
    (hcs : ∀ c ∈ cs.head?, ¬ IsWordChar c) :
    scanChars (':' :: (name ++ cs)) = .placeholder name :: scanChars cs := by
  obtain ⟨c, rest, rfl, hc, hrest⟩ := hname
  obtain ⟨htake, hdrop⟩ := span_isNameRest hrest hcs
  rw [List.cons_append, scanChars, if_pos (isNameStart_iff.mpr hc), htake, hdrop]

/-- A character is literal unless it is a colon in front of a lower case letter. -/
theorem scanChars_cons {c : Char} {rest : List Char}
    (h : c = ':' → ∀ d ∈ rest.head?, ¬ IsSmall d) :
    scanChars (c :: rest) = consLiteral c (scanChars rest) := by
  by_cases hc : c = ':'
  · subst hc
    cases rest with
    | nil => simp [scanChars]
    | cons d rest => rw [scanChars, if_neg (by simpa [isNameStart_iff] using h rfl d rfl)]
  · rw [scanChars]
    exact fun _ _ hcolon _ => hc hcolon

/-- A plain text is literal, whatever is behind it that does not begin like a name. -/
theorem scanChars_append {text cs : List Char} (htext : ¬ HoldsPlaceholder text)
    (hcs : ∀ d ∈ cs.head?, ¬ IsSmall d) :
    scanChars (text ++ cs) = text.foldr consLiteral (scanChars cs) := by
  induction text with
  | nil => rfl
  | cons c more ih =>
      rw [holdsPlaceholder_cons, not_or] at htext
      rw [List.cons_append, scanChars_cons, ih htext.2, List.foldr_cons]
      intro hcolon d hd hsmall
      cases more with
      | nil => exact hcs d hd hsmall
      | cons e more => exact htext.1 ⟨hcolon, d, hd, hsmall⟩

/-- A literal is put together from its characters. -/
theorem foldr_consLiteral {text : List Char} {rest : List Token} (hne : text ≠ [])
    (hrest : ∀ text', rest.head? ≠ some (.literal text')) :
    text.foldr consLiteral rest = .literal text :: rest := by
  induction text with
  | nil => exact absurd rfl hne
  | cons c more ih =>
      rw [List.foldr_cons]
      cases more with
      | cons d more => rw [ih (List.cons_ne_nil d more)]; rfl
      | nil =>
          rw [List.foldr_nil, consLiteral]
          rintro text' more rfl
          exact hrest text' rfl

/-- What is written behind a literal is nothing or begins with the colon of a placeholder. -/
theorem not_isSmall_of_mem_head? {rest : List Token}
    (hrest : ∀ text', rest.head? ≠ some (.literal text')) {d : Char}
    (hd : d ∈ (write rest).head?) : ¬ IsSmall d := by
  cases rest with
  | nil => simp at hd
  | cons token more =>
      cases token with
      | literal text => exact absurd rfl (hrest text)
      | placeholder name =>
          cases hd
          simp [IsSmall]

/-- Scanning finds a well-formed list in its text. -/
theorem Grammatical.scanChars_write {tokens : List Token} (h : Grammatical tokens) :
    scanChars (write tokens) = tokens := by
  induction tokens with
  | nil => simp [scanChars]
  | cons token rest ih =>
      obtain ⟨hfits, hrest⟩ := grammatical_cons.mp h
      cases token with
      | literal text =>
          obtain ⟨hne, hplain, hhead⟩ := hfits
          rw [write_cons, Token.chars,
            scanChars_append hplain fun d hd => not_isSmall_of_mem_head? hhead hd, ih hrest,
            foldr_consLiteral hne hhead]
      | placeholder name =>
          obtain ⟨hname, hmaximal⟩ := hfits
          rw [write_cons, Token.chars, List.cons_append, scanChars_placeholder hname hmaximal,
            ih hrest]

theorem grammatical_iff (tokens : List Token) :
    Grammatical tokens ↔ scanChars (write tokens) = tokens :=
  ⟨Grammatical.scanChars_write, fun h => h ▸ grammatical_scanChars _⟩

instance (tokens : List Token) : Decidable (Grammatical tokens) :=
  decidable_of_iff _ (grammatical_iff tokens).symm

/-- A text is all literal if and only if no colon in it has a lower case letter behind it. -/
theorem forall_placeholder_notMem_scanChars_iff (cs : List Char) :
    (∀ name, .placeholder name ∉ scanChars cs) ↔ ¬ HoldsPlaceholder cs := by
  constructor
  · intro h hholds
    have hcs := write_scanChars cs
    have hgrammatical := grammatical_scanChars cs
    match hscan : scanChars cs with
    | [] =>
        rw [hscan, write_nil] at hcs
        exact not_holdsPlaceholder_nil (hcs ▸ hholds)
    | [.literal text] =>
        rw [hscan] at hcs hgrammatical
        have htext : text = cs := by simpa [Token.chars] using hcs
        exact hgrammatical.literal_plain text List.mem_cons_self (htext ▸ hholds)
    | .literal text :: .literal text' :: rest =>
        rw [hscan] at hgrammatical
        exact hgrammatical.literals_apart text text' ⟨[], rest, rfl⟩
    | .literal text :: .placeholder name :: rest => exact h name (by simp [hscan])
    | .placeholder name :: rest => exact h name (by simp [hscan])
  · intro h name hname
    obtain ⟨before, after, hscan⟩ := List.append_of_mem hname
    obtain ⟨c, rest, rfl, hc, -⟩ := (grammatical_scanChars cs).isName name hname
    refine h ⟨c, hc, write before, rest ++ write after, ?_⟩
    rw [← write_scanChars cs, hscan]
    simp [write, Token.chars]

/-- The tokens of a template are the well-formed ones that are written as it. -/
theorem eq_scan_iff {template : String} {tokens : List Token} :
    tokens = scan template ↔ write tokens = template.toList ∧ Grammatical tokens := by
  constructor
  · rintro rfl
    exact ⟨write_scanChars _, grammatical_scanChars _⟩
  · rintro ⟨hwrite, h⟩
    rw [scan, ← hwrite, h.scanChars_write]

end ClientTraits.Template
