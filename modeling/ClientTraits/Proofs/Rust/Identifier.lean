import Mathlib.Data.List.TakeWhile
import ClientTraits.Rust.Reader

/-!
# Identifiers

An identifier is a word, that is a letter or `_` and what may follow it, or it is raw: a word behind
`r#` (`IsWord`, `IsRaw`). Upper case makes no difference for what may stand in a word
(`Text.isIdentifierRest_toUpper`).

Identifiers among the tokens of a text keep their spelling. The lexer takes each by the rule for
identifiers, and keeps what it took to the end, at every level of groups (`Lexer.Spells`); so the
identifiers among the trees of a text are spelled like identifiers (`spelled_of_trees?`).
-/

namespace ClientTraits

namespace Text

/-- In upper case a character stays as it is, or becomes a capital letter of ASCII. -/
theorem toUpper_eq_or (c : Char) :
    c.toUpper = c ∨ (97 ≤ c.toNat ∧ c.toNat ≤ 122) ∧ c.toUpper.toNat + 32 = c.toNat := by
  by_cases h : 'a'.val ≤ c.val ∧ c.val ≤ 'z'.val
  · have hlow : 97 ≤ c.toNat := UInt32.le_iff_toNat_le.mp h.1
    have hhigh : c.toNat ≤ 122 := UInt32.le_iff_toNat_le.mp h.2
    have hsum : c.toUpper.toNat = (c.toNat + (2 ^ 32 - 32)) % 2 ^ 32 := by
      rw [show c.toUpper = _ from dif_pos h]
      exact UInt32.toNat_add ..
    exact Or.inr ⟨⟨hlow, hhigh⟩, by omega⟩
  · exact Or.inl (dif_neg h)

theorem isIdentifierRest_of_isIdentifierStart {c : Char} (h : isIdentifierStart c = true) :
    isIdentifierRest c = true := by
  rw [isIdentifierRest]
  split
  · next hascii =>
    rw [isIdentifierStart, if_pos hascii] at h
    simp only [Char.isAlphanum, Bool.or_eq_true] at h ⊢
    exact h.imp_left Or.inl
  · rw [h, Bool.true_or]

theorem isAlphanum_of_small {c : Char} (h : 97 ≤ c.toNat ∧ c.toNat ≤ 122) :
    c.isAlphanum = true := by
  have hlower : c.isLower = true := Bool.and_eq_true_iff.mpr
    ⟨decide_eq_true (UInt32.le_iff_toNat_le.mpr h.1), decide_eq_true (UInt32.le_iff_toNat_le.mpr h.2)⟩
  show ((c.isUpper || c.isLower) || c.isDigit) = true
  rw [hlower, Bool.or_true, Bool.true_or]

theorem isAlphanum_of_capital {c : Char} (h : 65 ≤ c.toNat ∧ c.toNat ≤ 90) :
    c.isAlphanum = true := by
  have hupper : c.isUpper = true :=
    decide_eq_true ⟨UInt32.le_iff_toNat_le.mpr h.1, UInt32.le_iff_toNat_le.mpr h.2⟩
  show ((c.isUpper || c.isLower) || c.isDigit) = true
  rw [hupper, Bool.true_or, Bool.true_or]

/-- A character may stand in an identifier if and only if it may in upper case. -/
theorem isIdentifierRest_toUpper (c : Char) : isIdentifierRest c.toUpper = isIdentifierRest c := by
  rcases toUpper_eq_or c with hsame | ⟨hsmall, hupper⟩
  · rw [hsame]
  · have hcapital : 65 ≤ c.toUpper.toNat ∧ c.toUpper.toNat ≤ 90 := by omega
    rw [isIdentifierRest, isIdentifierRest, if_pos (by omega), if_pos (by omega),
      isAlphanum_of_small hsmall, isAlphanum_of_capital hcapital, Bool.true_or, Bool.true_or]

/-- Only an underscore is one in upper case. -/
theorem toUpper_eq_underscore_iff (c : Char) : c.toUpper = '_' ↔ c = '_' := by
  rcases toUpper_eq_or c with hsame | ⟨hsmall, hupper⟩
  · rw [hsame]
  · have hunderscore : '_'.toNat = 95 := rfl
    constructor
    · intro h
      rw [h] at hupper
      omega
    · rintro rfl
      omega

end Text

namespace Rust

open Text (isIdentifierStart isIdentifierRest)

/-- The characters of a word: an identifier that is not raw, or a keyword. -/
def IsWord : List Char → Prop
  | [] => False
  | c :: rest => isIdentifierStart c = true ∧ ∀ d ∈ rest, isIdentifierRest d = true

theorem IsWord.isIdentifierRest {cs : List Char} (h : IsWord cs) :
    ∀ d ∈ cs, isIdentifierRest d = true := by
  cases cs with
  | nil => exact fun _ hd => absurd hd List.not_mem_nil
  | cons c rest =>
      intro d hd
      rcases List.mem_cons.mp hd with rfl | hd
      · exact Text.isIdentifierRest_of_isIdentifierStart h.1
      · exact h.2 d hd

/-- A word is taken as a whole. -/
theorem isEmpty_rest_plainIdentifier?_iff {cs : List Char} :
    (plainIdentifier? cs).any (fun s => s.rest.isEmpty) = true ↔ IsWord cs := by
  cases cs with
  | nil => simp [plainIdentifier?, IsWord]
  | cons c rest =>
      by_cases hc : isIdentifierStart c = true
      · rw [plainIdentifier?, if_pos hc, Option.any_some, List.isEmpty_iff,
          List.dropWhile_eq_nil_iff]
        exact (and_iff_right hc).symm
      · rw [plainIdentifier?, if_neg hc]
        simp [IsWord, hc]

/-- The spelling of a raw identifier. -/
def IsRaw (cs : List Char) : Prop :=
  ['r', '#'] <+: cs

instance (cs : List Char) : Decidable (IsRaw cs) :=
  inferInstanceAs (Decidable (['r', '#'] <+: cs))

theorem IsWord.not_isRaw {cs : List Char} (h : IsWord cs) : ¬ IsRaw cs := by
  rintro ⟨rest, rfl⟩
  have hash := h.isIdentifierRest '#' (by simp)
  exact absurd hash (by decide)

theorem identifier?_of_not_isRaw {cs : List Char} (h : ¬ IsRaw cs) :
    identifier? cs = plainIdentifier? cs := by
  unfold identifier?
  split
  · exact absurd ⟨_, rfl⟩ h
  · rfl

/-- The text is spelled like an identifier; it may be a keyword. -/
def IsSpelling (text : String) : Prop :=
  (identifier? text.toList).any (fun s => s.rest.isEmpty) = true

/-- An identifier that is not raw is a word. -/
theorem isIdentifier_iff_of_not_isRaw {text : String} (h : ¬ IsRaw text.toList) :
    isIdentifier text = true ↔ text ∉ keywords ∧ IsWord text.toList := by
  rw [isIdentifier, Bool.and_eq_true, identifier?_of_not_isRaw h,
    isEmpty_rest_plainIdentifier?_iff]
  exact and_congr_left fun _ => decide_eq_true_iff

theorem isSpelling_of_isWord {cs : List Char} (h : IsWord cs) : IsSpelling (String.ofList cs) := by
  rw [IsSpelling, String.toList_ofList, identifier?_of_not_isRaw h.not_isRaw]
  exact isEmpty_rest_plainIdentifier?_iff.mpr h

theorem isWord_of_plainIdentifier? {cs : List Char} {s : Scan Unit}
    (h : plainIdentifier? cs = some s) : IsWord s.raw := by
  cases cs with
  | nil => cases h
  | cons c rest =>
      rw [plainIdentifier?] at h
      split at h
      · next hc =>
        cases h
        exact ⟨hc, fun d hd => List.mem_takeWhile_imp hd⟩
      · cases h

theorem plainIdentifier?_of_isWord {cs : List Char} (h : IsWord cs) :
    plainIdentifier? cs = some ⟨cs, (), []⟩ := by
  cases cs with
  | nil => exact h.elim
  | cons c rest =>
      rw [plainIdentifier?, if_pos h.1, List.takeWhile_eq_self_iff.mpr h.2,
        List.dropWhile_eq_nil_iff.mpr h.2]

/-- What is taken as an identifier is spelled like one. -/
theorem isSpelling_of_identifier? {cs : List Char} {s : Scan Unit} (h : identifier? cs = some s) :
    IsSpelling (String.ofList s.raw) := by
  unfold identifier? at h
  split at h
  · next rest =>
    obtain ⟨word, hword, h⟩ := Option.bind_eq_some_iff.mp h
    have hagain := plainIdentifier?_of_isWord (isWord_of_plainIdentifier? hword)
    by_cases hself : String.ofList word.raw ∈ ["_", "super", "self", "Self", "crate"]
    · rw [if_pos hself] at h
      cases h
    · rw [if_neg hself] at h
      cases h
      rw [IsSpelling, String.toList_ofList]
      show (identifier? ('r' :: '#' :: word.raw)).any _ = true
      rw [identifier?, hagain, Option.bind_eq_bind, Option.bind_some, if_neg hself]
      rfl
  · exact isSpelling_of_isWord (isWord_of_plainIdentifier? h)

/-- The identifiers among the trees, groups left aside, are spelled like identifiers. -/
def Spelled (trees : List Tree) : Prop :=
  ∀ name, .ident name ∈ trees → IsSpelling name

theorem spelled_append {trees more : List Tree} (h : Spelled trees) (h' : Spelled more) :
    Spelled (trees ++ more) := by
  intro name hname
  rcases List.mem_append.mp hname with hname | hname
  · exact h name hname
  · exact h' name hname

theorem spelled_of_forall {trees : List Tree} (h : ∀ name, .ident name ∉ trees) : Spelled trees :=
  fun name hname => absurd hname (h name)

theorem spelled_docAttribute (inner : Bool) (text : List Char) :
    Spelled (docAttribute inner text) :=
  spelled_of_forall fun name => by cases inner <;> simp [docAttribute]

theorem ne_ident_of_literal_or_lifetime {rest : List Char} {word : Scan Unit}
    {x : Tree × List Char}
    (h : (match literal? rest with
      | some l => some (literalTree .apostrophe l)
      | none => if startsQuoted rest then none
          else some (.lifetime (String.ofList word.raw), word.rest)) = some x)
    (name : String) : x.1 ≠ .ident name := by
  split at h
  · cases h
    exact fun h => nomatch h
  · split at h
    · cases h
    · cases h
      exact fun h => nomatch h

/-- No identifier begins at an apostrophe. -/
theorem ne_ident_of_behindApostrophe? {rest : List Char} {x : Tree × List Char}
    (h : behindApostrophe? rest = some x) (name : String) : x.1 ≠ .ident name := by
  obtain ⟨word, -, h⟩ := Option.bind_eq_some_iff.mp h
  -- What may not follow the word is refused; everything else goes on alike.
  dsimp only at h
  split at h
  · cases h
  · split at h
    · cases h
    · exact ne_ident_of_literal_or_lifetime h name
  · exact ne_ident_of_literal_or_lifetime h name

/-- A token that is an identifier is spelled like one. -/
theorem spelled_leaf? {cs : List Char} {x : Tree × List Char} (h : leaf? cs = some x) :
    Spelled [x.1] := by
  have hother (hx : ∀ name, x.1 ≠ .ident name) : Spelled [x.1] :=
    spelled_of_forall fun name hname => hx name (List.mem_singleton.mp hname).symm
  unfold leaf? at h
  split at h
  · cases h
    exact hother fun _ h => nomatch h
  · split at h
    · split at h
      · exact hother (ne_ident_of_behindApostrophe? h)
      · cases h
        exact hother fun _ h => nomatch h
      · cases h
    · split at h
      · cases h
      · obtain ⟨s, hs, rfl⟩ := Option.map_eq_some_iff.mp h
        intro name hname
        cases List.mem_singleton.mp hname
        exact isSpelling_of_identifier? hs

namespace Lexer

/-- The identifiers at all levels that are open are spelled like identifiers. -/
def Spells (l : Lexer) : Prop :=
  Spelled l.trees ∧ ∀ level ∈ l.outer, Spelled level.2

variable {l l' : Lexer}

theorem Spells.push (h : l.Spells) {trees : List Tree} (htrees : Spelled trees)
    (rest : List Char) : (l.push trees rest).Spells :=
  ⟨spelled_append (fun name hname => htrees name (List.mem_reverse.mp hname)) h.1, h.2⟩

theorem Spells.doc? (h : l.Spells) {inner : Bool} {text rest : List Char}
    (hdoc : l.doc? inner text rest = some l') : l'.Spells := by
  unfold Lexer.doc? at hdoc
  split at hdoc
  · cases hdoc
    exact h.push (spelled_docAttribute inner text) rest
  · cases hdoc

theorem Spells.lineComment? (h : l.Spells) {cs : List Char}
    (hcomment : l.lineComment? cs = some l') : l'.Spells := by
  unfold Lexer.lineComment? at hcomment
  dsimp only at hcomment
  split at hcomment
  · cases hcomment
    exact h
  · exact h.doc? hcomment
  · exact h.doc? hcomment
  · cases hcomment
    exact h

theorem Spells.blockComment? (h : l.Spells) {cs : List Char}
    (hcomment : l.blockComment? cs = some l') : l'.Spells := by
  obtain ⟨⟨text, rest⟩, -, hcomment⟩ := Option.bind_eq_some_iff.mp hcomment
  dsimp only at hcomment
  split at hcomment
  · exact h.doc? hcomment
  · cases hcomment
    exact h
  · exact h.doc? hcomment
  · cases hcomment
    exact h

theorem Spells.openGroup (h : l.Spells) (d : Delimiter) (rest : List Char) :
    (l.openGroup d rest).Spells := by
  refine ⟨fun _ hname => absurd hname List.not_mem_nil, fun level hlevel => ?_⟩
  rcases List.mem_cons.mp hlevel with rfl | hlevel
  · exact h.1
  · exact h.2 level hlevel

theorem Spells.closeGroup? (h : l.Spells) {d : Delimiter} {rest : List Char}
    (hclose : l.closeGroup? d rest = some l') : l'.Spells := by
  unfold Lexer.closeGroup? at hclose
  split at hclose
  · next opened before outer houter =>
    split at hclose
    · cases hclose
      have hbefore : Spelled before := h.2 (opened, before) (houter ▸ List.mem_cons_self)
      refine ⟨fun name hname => ?_, fun level hlevel =>
        h.2 level (houter ▸ List.mem_cons_of_mem _ hlevel)⟩
      rcases List.mem_cons.mp hname with hgroup | hname
      · cases hgroup
      · exact hbefore name hname
    · cases hclose
  · cases hclose

theorem Spells.step? (h : l.Spells) (hstep : l.step? = some l') : l'.Spells := by
  unfold Lexer.step? at hstep
  split at hstep
  · cases hstep
  · exact h.lineComment? hstep
  · cases hstep
    exact h
  · exact h.blockComment? hstep
  · split at hstep
    · cases hstep
      exact h
    · split at hstep
      · cases hstep
        exact h.push (spelled_of_forall fun name => by simp) _
      · split at hstep
        · cases hstep
          exact h.openGroup _ _
        · exact h.closeGroup? hstep
        · obtain ⟨x, hx, rfl⟩ := Option.map_eq_some_iff.mp hstep
          exact h.push (spelled_leaf? hx) _

theorem Spells.finish (h : l.Spells) {trees : List Tree}
    (hend : (if l.outer.isEmpty then some l.trees.reverse else none) = some trees) :
    Spelled trees := by
  split at hend
  · cases hend
    exact fun name hname => h.1 name (List.mem_reverse.mp hname)
  · cases hend

/-- What each step keeps is kept to the end of the text. -/
theorem Spells.run? (h : l.Spells) {bound : Nat} {trees : List Tree}
    (hrun : l.run? bound = some trees) : Spelled trees := by
  induction bound generalizing l with
  | zero =>
      rw [Lexer.run?] at hrun
      split at hrun
      · exact h.finish hrun
      · cases hrun
  | succ bound ih =>
      rw [Lexer.run?] at hrun
      split at hrun
      · exact h.finish hrun
      · obtain ⟨next, hnext, hrun⟩ := Option.bind_eq_some_iff.mp hrun
        exact ih (h.step? hnext) hrun

end Lexer

/-- The identifiers among the trees of a text are spelled like identifiers. -/
theorem spelled_of_trees? {cs : List Char} {trees : List Tree} (h : trees? cs = some trees) :
    Spelled trees :=
  Lexer.Spells.run? ⟨fun _ hname => absurd hname List.not_mem_nil,
    fun _ hlevel => absurd hlevel List.not_mem_nil⟩ h

end Rust

end ClientTraits
