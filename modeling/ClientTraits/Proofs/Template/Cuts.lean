import Mathlib.Data.List.Forall2
import ClientTraits.Request.TemplateCuts
import ClientTraits.Proofs.Template.Grammar

/-!
# Scanning by bytes

The machine that cuts a template goes over its bytes and looks at some of them twice. It finds the
tokens that the scanner finds character by character, which are those of the grammar
(`scan_eq_iff_grammatical`): each cut is made around a token, between characters
(`cuts_around`), and has the token as its text (`map_token?_cuts`).

## Proof shape

`Scanner.Finds` tells which tokens the machine cuts from a state on. What it finds in each of its
three states, by the text that is still to come (`Scanner.FindsBefore`), has one lemma for each
state and is put together by an induction along that text. Literal text that was passed and is not
cut yet goes in front of what is found later, as in the scanner (`consLiteral`). Of the bytes it is
enough to know which characters they can belong to (`ne_colon_of_mem_utf8EncodeChar`,
`exists_utf8EncodeChar_eq_cons`).
-/

namespace ClientTraits.Template

/-! ### Bytes of characters -/

/-- The bytes of a text. -/
def bytesOf (cs : List Char) : List UInt8 :=
  cs.flatMap String.utf8EncodeChar

/-- Where a text ends in its bytes. -/
def offset (cs : List Char) : Nat :=
  (bytesOf cs).length

@[simp] theorem bytesOf_nil : bytesOf [] = [] := rfl

@[simp] theorem bytesOf_cons (c : Char) (cs : List Char) :
    bytesOf (c :: cs) = String.utf8EncodeChar c ++ bytesOf cs := rfl

@[simp] theorem bytesOf_append (cs more : List Char) :
    bytesOf (cs ++ more) = bytesOf cs ++ bytesOf more :=
  List.flatMap_append

theorem utf8EncodeChar_of_le {c : Char} (h : c.toNat ≤ 127) :
    String.utf8EncodeChar c = [UInt8.ofNat c.toNat] := by
  unfold String.utf8EncodeChar
  exact if_pos h

/-- Characters outside of ASCII have no byte in it. -/
theorem le_toNat_of_mem_utf8EncodeChar {c : Char} (h : 127 < c.toNat) {b : UInt8}
    (hb : b ∈ String.utf8EncodeChar c) : 128 ≤ b.toNat := by
  have hnot : ¬ c.val.toNat ≤ 127 := Nat.not_le.mpr h
  simp only [String.utf8EncodeChar, hnot, if_false] at hb
  split at hb
  · simp only [List.mem_cons, List.not_mem_nil, or_false] at hb
    rcases hb with rfl | rfl <;> simp only [UInt8.toNat_ofNat'] <;> omega
  · split at hb
    · simp only [List.mem_cons, List.not_mem_nil, or_false] at hb
      rcases hb with rfl | rfl | rfl <;> simp only [UInt8.toNat_ofNat'] <;> omega
    · simp only [List.mem_cons, List.not_mem_nil, or_false] at hb
      rcases hb with rfl | rfl | rfl | rfl <;> simp only [UInt8.toNat_ofNat'] <;> omega

/-- Only the colon has the byte of a colon. -/
theorem ne_colon_of_mem_utf8EncodeChar {c : Char} (h : c ≠ ':') {b : UInt8}
    (hb : b ∈ String.utf8EncodeChar c) : b ≠ 0x3A := by
  rintro rfl
  by_cases hc : c.toNat ≤ 127
  · rw [utf8EncodeChar_of_le hc, List.mem_singleton] at hb
    have hnat := congrArg UInt8.toNat hb
    rw [UInt8.toNat_ofNat'] at hnat
    refine h (Char.toNat_inj.mp ?_)
    show c.toNat = 58
    change 58 = _ at hnat
    omega
  · have hlarge := le_toNat_of_mem_utf8EncodeChar (Nat.not_le.mp hc) hb
    exact absurd hlarge (by decide)

theorem isSmall_iff_toNat {c : Char} : IsSmall c ↔ 97 ≤ c.toNat ∧ c.toNat ≤ 122 := by
  simp only [IsSmall, Char.le_def, UInt32.le_iff_toNat_le]
  exact Iff.rfl

theorem isWordChar_iff_toNat {c : Char} :
    IsWordChar c ↔ (65 ≤ c.toNat ∧ c.toNat ≤ 90) ∨ (97 ≤ c.toNat ∧ c.toNat ≤ 122) ∨
      (48 ≤ c.toNat ∧ c.toNat ≤ 57) ∨ c.toNat = 95 := by
  simp only [IsWordChar, Char.le_def, UInt32.le_iff_toNat_le, ← Char.toNat_inj]
  exact Iff.rfl

theorem isNameByte_iff_toNat {b : UInt8} :
    Scanner.isNameByte b = true ↔ (65 ≤ b.toNat ∧ b.toNat ≤ 90) ∨ (97 ≤ b.toNat ∧ b.toNat ≤ 122) ∨
      (48 ≤ b.toNat ∧ b.toNat ≤ 57) ∨ b.toNat = 95 := by
  simp only [Scanner.isNameByte, Bool.or_eq_true, Bool.and_eq_true, decide_eq_true_iff,
    beq_iff_eq, UInt8.le_iff_toNat_le, ← UInt8.toNat_inj]
  show (((48 ≤ b.toNat ∧ b.toNat ≤ 57) ∨ (65 ≤ b.toNat ∧ b.toNat ≤ 90)) ∨
    (97 ≤ b.toNat ∧ b.toNat ≤ 122)) ∨ b.toNat = 95 ↔ _
  omega

/-- The first byte of a character tells whether it may start or continue a name, and then it is the
only one. -/
theorem exists_utf8EncodeChar_eq_cons (c : Char) :
    ∃ b more, String.utf8EncodeChar c = b :: more ∧ (0x61 ≤ b ∧ b ≤ 0x7A ↔ IsSmall c) ∧
      (Scanner.isNameByte b = true ↔ IsWordChar c) ∧ (IsWordChar c → more = []) := by
  rw [isSmall_iff_toNat, isWordChar_iff_toNat]
  by_cases hc : c.toNat ≤ 127
  · have hbyte : (UInt8.ofNat c.toNat).toNat = c.toNat := by
      rw [UInt8.toNat_ofNat']
      omega
    refine ⟨_, [], utf8EncodeChar_of_le hc, ?_, ?_, fun _ => rfl⟩
    · rw [UInt8.le_iff_toNat_le, UInt8.le_iff_toNat_le, hbyte]
      rfl
    · rw [isNameByte_iff_toNat, hbyte]
  · cases hencode : String.utf8EncodeChar c with
    | nil => exact absurd hencode String.utf8EncodeChar_ne_nil
    | cons b more =>
        have hlarge : 128 ≤ b.toNat := by
          refine le_toNat_of_mem_utf8EncodeChar (Nat.not_le.mp hc) ?_
          rw [hencode]
          exact List.mem_cons_self
        refine ⟨b, more, rfl, ?_, ?_, fun h => ?_⟩
        · rw [UInt8.le_iff_toNat_le, UInt8.le_iff_toNat_le]
          show 97 ≤ _ ∧ _ ≤ 122 ↔ _
          omega
        · rw [isNameByte_iff_toNat]
          omega
        · omega

/-! ### Runs of the machine -/

namespace Scanner

/-- A transition on the byte at the position. -/
theorem run_eq_run_step {bytes : List UInt8} {s : Scanner} {b : UInt8}
    (h : bytes[s.position]? = some b) :
    s.run bytes.toByteArray = (s.step b).run bytes.toByteArray := by
  obtain ⟨hlt, rfl⟩ := List.getElem?_eq_some_iff.mp h
  have hlt' : s.position < bytes.toByteArray.size := by rwa [List.size_toByteArray]
  rw [run, dif_pos hlt', List.getElem_toByteArray]

theorem run_eq_finish {bytes : List UInt8} {s : Scanner} (h : s.position = bytes.length) :
    s.run bytes.toByteArray = s.finish := by
  rw [run, dif_neg (by rw [List.size_toByteArray, h]; exact Nat.lt_irrefl _)]

/-- Bytes that are no colons are passed over in literal text. -/
theorem run_literal {bytes front plain back : List UInt8} (hbytes : bytes = front ++ plain ++ back)
    (hplain : ∀ b ∈ plain, b ≠ 0x3A) {s : Scanner} (hreading : s.reading = .literal)
    (hposition : s.position = front.length) :
    s.run bytes.toByteArray =
      { s with position := (front ++ plain).length }.run bytes.toByteArray := by
  induction plain generalizing front s with
  | nil => rw [List.append_nil, ← hposition]
  | cons b rest ih =>
      have hb : bytes[s.position]? = some b := by simp [hbytes, hposition]
      have hstep : s.step b = { s with position := s.position + 1 } := by
        simp [step, hreading, hplain b List.mem_cons_self]
      have hrest : bytes = (front ++ [b]) ++ rest ++ back := by simp [hbytes]
      have hmore := ih hrest (fun b' hb' => hplain b' (List.mem_cons_of_mem b hb'))
        (show ({ s with position := s.position + 1 } : Scanner).reading = .literal from hreading)
        (by simp [hposition])
      rw [run_eq_run_step hb, hstep, hmore]
      simp

end Scanner

/-! ### Cuts and tokens -/

/-- The cut is made around the token, between characters of the text. -/
def Cut.Around (text : List Char) : Cut → Token → Prop
  | .literal start stop, .literal part => ∃ before after, text = before ++ part ++ after ∧
      start = offset before ∧ stop = offset (before ++ part)
  | .placeholder start stop, .placeholder part => ∃ before after, text = before ++ part ++ after ∧
      start = offset before ∧ stop = offset (before ++ part)
  | _, _ => False

theorem offset_append (cs more : List Char) : offset (cs ++ more) = offset cs + offset more := by
  simp [offset]

/-- A character of one byte moves the position by one. -/
theorem offset_snoc {c : Char} {b : UInt8} {more : List UInt8}
    (hencode : String.utf8EncodeChar c = b :: more) (halone : more = []) (cs : List Char) :
    offset (cs ++ [c]) = offset cs + 1 := by
  simp [offset, hencode, halone]

/-- The first byte of a character is at its offset. -/
theorem getElem?_bytesOf {text before rest : List Char} {c : Char} {b : UInt8} {more : List UInt8}
    (htext : text = before ++ c :: rest) (hencode : String.utf8EncodeChar c = b :: more) :
    (bytesOf text)[offset before]? = some b := by
  simp [htext, offset, hencode]

/-- No character is empty. -/
theorem offset_pos {cs : List Char} (h : cs ≠ []) : 0 < offset cs := by
  cases cs with
  | nil => exact absurd rfl h
  | cons c more =>
      rw [offset, bytesOf_cons, List.length_append]
      have hpos := List.length_pos_iff.mpr (String.utf8EncodeChar_ne_nil (c := c))
      omega

/-- The cut of a literal, if there is any text in it. -/
def literalCut (start stop : Nat) : List Cut :=
  if start < stop then [.literal start stop] else []

theorem reverse_literalCut (start stop : Nat) :
    (literalCut start stop).reverse = literalCut start stop := by
  rw [literalCut]
  split <;> rfl

/-- Literal text that waits for its end is cut in front of the other tokens. -/
theorem around_literalCut {text before part after : List Char}
    (htext : text = before ++ part ++ after) {cuts : List Cut} {rest : List Token}
    (hrest : ∀ part', rest.head? ≠ some (.literal part'))
    (h : List.Forall₂ (Cut.Around text) cuts rest) :
    List.Forall₂ (Cut.Around text) (literalCut (offset before) (offset (before ++ part)) ++ cuts)
      (part.foldr consLiteral rest) := by
  by_cases hpart : part = []
  · rw [literalCut, if_neg (by simp [hpart]), hpart]
    exact h
  · have hlt : offset before < offset (before ++ part) := by
      have hpos := offset_pos hpart
      rw [offset_append]
      omega
    rw [literalCut, if_pos hlt, foldr_consLiteral hpart hrest]
    exact .cons ⟨before, after, htext, rfl, rfl⟩ h

/-- From a state on, the machine cuts the text into the tokens. -/
def Scanner.Finds (text : List Char) (s : Scanner) (tokens : List Token) : Prop :=
  ∃ more, s.run (bytesOf text).toByteArray = more ++ s.cuts ∧
    List.Forall₂ (Cut.Around text) more.reverse tokens

namespace Scanner

variable {text : List Char}

theorem Finds.of_run_eq {s s' : Scanner} {tokens : List Token} (h : s'.Finds text tokens)
    (hcuts : s'.cuts = s.cuts)
    (hrun : s.run (bytesOf text).toByteArray = s'.run (bytesOf text).toByteArray) :
    s.Finds text tokens := by
  obtain ⟨more, hmore, haround⟩ := h
  exact ⟨more, by rw [hrun, hmore, hcuts], haround⟩

/-- What is left at the end of the text is cut as a literal. -/
theorem finds_literal_end {before part : List Char} (htext : text = before ++ part)
    (reading : Reading) (hreading : ∀ start, reading ≠ .name start) (cuts : List Cut) :
    Finds text ⟨reading, offset before, offset (before ++ part), cuts⟩
      (part.foldr consLiteral []) := by
  refine ⟨literalCut (offset before) (offset (before ++ part)), ?_, ?_⟩
  · rw [run_eq_finish (by rw [htext]; rfl), literalCut]
    cases reading with
    | name start => exact absurd rfl (hreading start)
    | literal =>
        unfold finish
        dsimp only
        split <;> rfl
    | colon =>
        unfold finish
        dsimp only
        split <;> rfl
  · rw [reverse_literalCut, ← List.append_nil (literalCut _ _)]
    exact around_literalCut (by rw [htext, List.append_nil]) (by simp) .nil

/-- A name is cut at its end, and the literal text in front of it. -/
theorem Finds.of_cutName {before part name after : List Char}
    (htext : text = before ++ part ++ ':' :: (name ++ after)) {cuts : List Cut}
    {tokens : List Token} {s : Scanner}
    (hs : s = ⟨.name (offset (before ++ part) + 1), offset before,
      offset (before ++ part ++ ':' :: name), cuts⟩)
    (hrun : s.run (bytesOf text).toByteArray =
      (s.cutName (offset (before ++ part) + 1)).run (bytesOf text).toByteArray)
    (h : (s.cutName (offset (before ++ part) + 1)).Finds text tokens) :
    s.Finds text (part.foldr consLiteral (.placeholder name :: tokens)) := by
  subst hs
  obtain ⟨more, hmore, haround⟩ := h
  have hplaceholder : (Cut.placeholder (offset (before ++ part) + 1)
      (offset (before ++ part ++ ':' :: name))).Around text (.placeholder name) :=
    ⟨before ++ part ++ [':'], after, by simp [htext], by rw [offset_append _ [':']]; rfl,
      by simp⟩
  refine ⟨more ++ .placeholder (offset (before ++ part) + 1)
    (offset (before ++ part ++ ':' :: name)) ::
      literalCut (offset before) (offset (before ++ part)), ?_, ?_⟩
  · rw [hrun, hmore, cutName]
    simp [literalCut]
  · rw [List.reverse_append, List.reverse_cons, reverse_literalCut, List.append_assoc]
    exact around_literalCut htext (by simp) (.cons hplaceholder haround)

/-- What the machine finds in each of its states, with this text still to come: in literal text,
behind a colon, and in a name. -/
structure FindsBefore (text after : List Char) : Prop where
  literal : ∀ before part cuts, text = before ++ part ++ after →
    Finds text ⟨.literal, offset before, offset (before ++ part), cuts⟩
      (part.foldr consLiteral (scanChars after))
  colon : ∀ before part cuts, text = before ++ part ++ ':' :: after →
    Finds text ⟨.colon, offset before, offset (before ++ (part ++ [':'])), cuts⟩
      (part.foldr consLiteral (scanChars (':' :: after)))
  name : ∀ before part name cuts, text = before ++ part ++ ':' :: (name ++ after) →
    Finds text ⟨.name (offset (before ++ part) + 1), offset before,
        offset (before ++ part ++ ':' :: name), cuts⟩
      (part.foldr consLiteral (.placeholder (name ++ after.takeWhile isNameRest) ::
        scanChars (after.dropWhile isNameRest)))

theorem foldr_consLiteral_snoc (part : List Char) (c : Char) (tokens : List Token) :
    (part ++ [c]).foldr consLiteral tokens = part.foldr consLiteral (consLiteral c tokens) :=
  List.foldr_append

theorem findsBefore_nil : FindsBefore text [] where
  literal before part cuts htext := by
    rw [scanChars]
    exact finds_literal_end (by simpa using htext) _ (by simp) cuts
  colon before part cuts htext := by
    rw [scanChars_cons (by simp), scanChars, ← foldr_consLiteral_snoc]
    exact finds_literal_end (by simpa using htext) _ (by simp) cuts
  name before part name cuts htext := by
    rw [List.takeWhile_nil, List.dropWhile_nil, List.append_nil, scanChars]
    have hend : (bytesOf text).length = offset (before ++ part ++ ':' :: name) := by
      rw [htext, List.append_nil]
      rfl
    refine Finds.of_cutName htext rfl ?_ ?_
    · rw [run_eq_finish hend.symm, run_eq_finish hend.symm]
      rfl
    · have hrest : text = (before ++ part ++ ':' :: name) ++ [] := by simpa using htext
      have hnothing := finds_literal_end hrest .literal (by simp)
      rw [List.append_nil] at hnothing
      exact hnothing _

section Cons

variable {before part rest : List Char} {c : Char}

theorem finds_literal_cons (h : FindsBefore text rest) (htext : text = before ++ part ++ c :: rest)
    (cuts : List Cut) :
    Finds text ⟨.literal, offset before, offset (before ++ part), cuts⟩
      (part.foldr consLiteral (scanChars (c :: rest))) := by
  by_cases hc : c = ':'
  · subst hc
    refine (h.colon before part cuts htext).of_run_eq rfl ?_
    have hbyte : (bytesOf text)[offset (before ++ part)]? = some 0x3A := getElem?_bytesOf htext rfl
    rw [run_eq_run_step hbyte, step, ← List.append_assoc, offset_append _ [':']]
    rfl
  · rw [scanChars_cons fun hcolon => absurd hcolon hc, ← foldr_consLiteral_snoc]
    refine (h.literal before (part ++ [c]) cuts (by simp [htext])).of_run_eq rfl ?_
    have hbytes : bytesOf text =
        bytesOf (before ++ part) ++ String.utf8EncodeChar c ++ bytesOf rest := by
      simp [htext]
    rw [run_literal hbytes (fun b hb => ne_colon_of_mem_utf8EncodeChar hc hb) rfl rfl,
      ← List.append_assoc]
    simp [offset]

/-- Behind a colon a name begins, or the colon and what follows it are literal text. -/
theorem finds_colon_cons (h : FindsBefore text rest)
    (htext : text = before ++ part ++ ':' :: c :: rest) (cuts : List Cut) :
    Finds text ⟨.colon, offset before, offset (before ++ (part ++ [':'])), cuts⟩
      (part.foldr consLiteral (scanChars (':' :: c :: rest))) := by
  have htext' : text = before ++ (part ++ [':']) ++ c :: rest := by simp [htext]
  obtain ⟨b, more, hencode, hstart, -, halone⟩ := exists_utf8EncodeChar_eq_cons c
  have hbyte := getElem?_bytesOf htext' hencode
  by_cases hsmall : IsSmall c
  · rw [scanChars, if_pos (isNameStart_iff.mpr hsmall)]
    refine (h.name before part [c] cuts htext).of_run_eq rfl ?_
    have hstep : offset (before ++ part ++ [':', c]) = offset (before ++ (part ++ [':'])) + 1 := by
      rw [← offset_snoc hencode (halone (Or.inr (Or.inl hsmall)))]
      simp
    have hcolon : offset (before ++ (part ++ [':'])) = offset (before ++ part) + 1 := by
      rw [← List.append_assoc, offset_append _ [':']]
      rfl
    rw [run_eq_run_step hbyte, step]
    dsimp only
    rw [if_pos (hstart.mpr hsmall), hstep, hcolon]
  · rw [scanChars_cons (by simpa using hsmall), ← foldr_consLiteral_snoc]
    refine (finds_literal_cons h htext' cuts).of_run_eq rfl ?_
    rw [run_eq_run_step hbyte, step]
    dsimp only
    rw [if_neg (mt hstart.mp hsmall)]

/-- A name goes on, or it is cut and literal text begins. -/
theorem finds_name_cons {name : List Char} (h : FindsBefore text rest)
    (htext : text = before ++ part ++ ':' :: (name ++ c :: rest)) (cuts : List Cut) :
    Finds text ⟨.name (offset (before ++ part) + 1), offset before,
        offset (before ++ part ++ ':' :: name), cuts⟩
      (part.foldr consLiteral (.placeholder (name ++ (c :: rest).takeWhile isNameRest) ::
        scanChars ((c :: rest).dropWhile isNameRest))) := by
  have htext' : text = (before ++ part ++ ':' :: name) ++ [] ++ c :: rest := by simp [htext]
  obtain ⟨b, more, hencode, -, hcontinue, halone⟩ := exists_utf8EncodeChar_eq_cons c
  have hbyte := getElem?_bytesOf htext' hencode
  rw [List.append_nil] at hbyte
  by_cases hword : IsWordChar c
  · have hrest := isNameRest_iff.mpr hword
    rw [List.takeWhile_cons_of_pos hrest, List.dropWhile_cons_of_pos hrest, List.append_cons name c]
    refine (h.name before part (name ++ [c]) cuts (by simp [htext])).of_run_eq rfl ?_
    have hposition := offset_snoc hencode (halone hword) (before ++ part ++ ':' :: name)
    rw [List.append_assoc, List.cons_append] at hposition
    rw [run_eq_run_step hbyte, step]
    dsimp only
    rw [if_pos (hcontinue.mpr hword), hposition]
  · have hrest : ¬ isNameRest c = true := mt isNameRest_iff.mp hword
    rw [List.takeWhile_cons_of_neg hrest, List.dropWhile_cons_of_neg hrest, List.append_nil]
    refine Finds.of_cutName htext rfl ?_ ?_
    · rw [run_eq_run_step hbyte, step]
      dsimp only
      rw [if_neg (mt hcontinue.mp hword)]
    · have hnext := finds_literal_cons h htext'
      rw [List.append_nil] at hnext
      exact hnext _

end Cons

theorem findsBefore (after : List Char) : FindsBefore text after := by
  induction after with
  | nil => exact findsBefore_nil
  | cons c rest ih =>
      exact ⟨fun _ _ cuts htext => finds_literal_cons ih htext cuts,
        fun _ _ cuts htext => finds_colon_cons ih htext cuts,
        fun _ _ _ cuts htext => finds_name_cons ih htext cuts⟩

end Scanner

/-- The machine cuts a template around the tokens that the scanner finds. -/
theorem cuts_around (template : String) :
    List.Forall₂ (Cut.Around template.toList) (cuts template) (scan template) := by
  have hbytes : template.toUTF8 = (bytesOf template.toList).toByteArray :=
    String.utf8Encode_toList.symm
  have htext : template.toList = [] ++ [] ++ template.toList := rfl
  obtain ⟨more, hmore, haround⟩ := (Scanner.findsBefore template.toList).literal [] [] [] htext
  rw [cuts, hbytes, show Scanner.initial.run _ = _ from hmore, List.append_nil]
  exact haround

/-- The text between two bytes, if it begins and ends with characters. -/
def slice? (template : String) (start stop : Nat) : Option (List Char) :=
  (String.fromUTF8? (template.toUTF8.extract start stop)).map String.toList

/-- The token that is cut out of a template. -/
def Cut.token? (template : String) : Cut → Option Token
  | literal start stop => (slice? template start stop).map .literal
  | placeholder start stop => (slice? template start stop).map .placeholder

theorem slice?_eq_some {template : String} {before part after : List Char}
    (h : template.toList = before ++ part ++ after) :
    slice? template (offset before) (offset (before ++ part)) = some part := by
  have hbytes : template.toUTF8 = before.utf8Encode ++ part.utf8Encode ++ after.utf8Encode := by
    rw [← List.utf8Encode_append, ← List.utf8Encode_append, ← h]
    exact String.utf8Encode_toList.symm
  have hsize : ∀ cs : List Char, offset cs = cs.utf8Encode.size :=
    fun _ => List.size_toByteArray.symm
  rw [slice?, hbytes, hsize, hsize, List.utf8Encode_append, ByteArray.extract_append_size_left,
    ByteArray.extract_append_eq_right rfl ByteArray.size_append, String.fromUTF8?,
    dif_pos ByteArray.isValidUTF8_utf8Encode]
  exact congrArg some String.toList_ofList

/-- The cuts of a template are its tokens, by their bytes. -/
theorem map_token?_cuts (template : String) :
    (cuts template).map (Cut.token? template) = (scan template).map some := by
  have htoken : ∀ cut token, Cut.Around template.toList cut token →
      cut.token? template = some token := by
    intro cut token haround
    cases cut with
    | literal start stop =>
        cases token with
        | placeholder name => exact haround.elim
        | literal part =>
            obtain ⟨before, after, htext, rfl, rfl⟩ := haround
            rw [Cut.token?, slice?_eq_some htext]
            rfl
    | placeholder start stop =>
        cases token with
        | literal part => exact haround.elim
        | placeholder name =>
            obtain ⟨before, after, htext, rfl, rfl⟩ := haround
            rw [Cut.token?, slice?_eq_some htext]
            rfl
  have hall := (cuts_around template).imp htoken
  rwa [← List.forall₂_map_right_iff (f := some) (R := fun cut t => Cut.token? template cut = t),
    ← List.forall₂_map_left_iff (f := Cut.token? template) (R := Eq), List.forall₂_eq_eq_eq]
    at hall

/-- **The scanner finds the one token list of a text.** A token list is what a template is scanned
as if and only if it is written as the template and keeps to the grammar. So a list that keeps to
the grammar is found again in its own text. The tokens are also what the machine cuts out of the
bytes. -/
theorem scan_eq_iff_grammatical :
    (∀ (template : String) (tokens : List Token),
      tokens = scan template ↔ write tokens = template.toList ∧ Grammatical tokens) ∧
    (∀ tokens, Grammatical tokens → scan (String.ofList (write tokens)) = tokens) ∧
    ∀ template, (cuts template).map (Cut.token? template) = (scan template).map some := by
  refine ⟨fun template tokens => eq_scan_iff, fun tokens h => ?_, map_token?_cuts⟩
  rw [scan, String.toList_ofList, h.scanChars_write]

/-- Colons in front of a colon, a digit, a capital and the end of the text, names side by side, and
letters outside of ASCII on both sides of a name. -/
def crowdedTokens : List Token :=
  [.literal "/gé:".toList, .placeholder "ville2".toList, .literal "é:1".toList,
    .placeholder "a".toList, .placeholder "b_C".toList, .literal "-:Z:".toList]

theorem scan_eq_iff_grammatical_crowdedTokens :
    Grammatical crowdedTokens ∧ crowdedTokens = scan "/gé::ville2é:1:a:b_C-:Z:" ∧
      scan (String.ofList (write crowdedTokens)) = crowdedTokens ∧
      (cuts "/gé::ville2é:1:a:b_C-:Z:").map (Cut.token? "/gé::ville2é:1:a:b_C-:Z:") =
        crowdedTokens.map some := by
  have h : Grammatical crowdedTokens := by decide +kernel
  obtain ⟨hscan, hfound, hcuts⟩ := scan_eq_iff_grammatical
  have hcrowded : crowdedTokens = scan "/gé::ville2é:1:a:b_C-:Z:" :=
    (hscan _ _).mpr ⟨by decide +kernel, h⟩
  exact ⟨h, hcrowded, hfound _ h, (hcuts _).trans (by rw [← hcrowded])⟩

end ClientTraits.Template
