import ClientTraits.Declaration.Basic
import ClientTraits.Proofs.Rust.TypeText

/-!
# Shown signatures

Reports name methods by the shown form of their signatures. It tells any two signatures apart
(`Signature.shown_identifies`) if the name of the owner has no `:`, the name of the method no `(`,
and each parameter type is a text that types are shown as: such a text has no blank behind a comma
(`not_commaBlank_infix_squeeze`), so that a comma with a blank behind it always parts two types,
whatever commas there are inside of them.
-/

namespace ClientTraits

open Rust

/-! ### Texts between separators -/

/-- The first mark stands where the text without it ends. -/
theorem append_mark_inj {mark : Char} {xs ys rest rest' : List Char} (hxs : mark ∉ xs)
    (hys : mark ∉ ys) (h : xs ++ mark :: rest = ys ++ mark :: rest') : xs = ys ∧ rest = rest' := by
  have hsplit := congrArg (Text.splitChars mark) h
  rw [Text.splitChars_append_cons hxs, Text.splitChars_append_cons hys] at hsplit
  exact Prod.mk.inj (Option.some.inj hsplit)

section Separator

variable {α : Type} {a b : α}

/-- Nothing goes on up to a separator that has none in it. -/
theorem eq_nil_of_append_separator (hab : a ≠ b) {xs more rest rest' : List α}
    (hxs : ¬ [a, b] <:+: xs ++ more) (h : a :: b :: rest = more ++ a :: b :: rest') :
    more = [] := by
  match more with
  | [] => rfl
  | [c] =>
      obtain ⟨-, hb⟩ := List.cons_eq_cons.mp h
      exact absurd (List.cons_eq_cons.mp hb).1.symm hab
  | c :: d :: more =>
      obtain ⟨rfl, hmore⟩ := List.cons_eq_cons.mp h
      obtain ⟨rfl, -⟩ := List.cons_eq_cons.mp hmore
      exact absurd ⟨xs, more, by simp⟩ hxs

/-- The first separator stands where the text without it ends. -/
theorem append_separator_inj (hab : a ≠ b) {xs ys rest rest' : List α}
    (hxs : ¬ [a, b] <:+: xs) (hys : ¬ [a, b] <:+: ys)
    (h : xs ++ a :: b :: rest = ys ++ a :: b :: rest') : xs = ys ∧ rest = rest' := by
  have hlength : xs = ys := by
    rcases List.append_eq_append_iff.mp h with ⟨more, rfl, hmore⟩ | ⟨more, rfl, hmore⟩
    · rw [eq_nil_of_append_separator hab hys hmore, List.append_nil]
    · rw [eq_nil_of_append_separator hab hxs hmore, List.append_nil]
  subst hlength
  obtain ⟨-, hrest⟩ := List.cons_eq_cons.mp (List.append_cancel_left h)
  exact ⟨rfl, (List.cons_eq_cons.mp hrest).2⟩

/-- A text without the separator is not joined from several pieces. -/
theorem ne_intercalate_cons_cons {xs ys zs : List α} (hxs : ¬ [a, b] <:+: xs)
    (pieces : List (List α)) : xs ≠ [a, b].intercalate (ys :: zs :: pieces) := by
  intro h
  rw [List.intercalate_cons_cons] at h
  exact hxs ⟨ys, [a, b].intercalate (zs :: pieces), h.symm⟩

/-- Pieces without the separator, none of them empty, can be told from what they are joined to. -/
theorem intercalate_separator_inj (hab : a ≠ b) {pieces pieces' : List (List α)}
    (hpieces : ∀ xs ∈ pieces, xs ≠ [] ∧ ¬ [a, b] <:+: xs)
    (hpieces' : ∀ xs ∈ pieces', xs ≠ [] ∧ ¬ [a, b] <:+: xs)
    (h : [a, b].intercalate pieces = [a, b].intercalate pieces') : pieces = pieces' := by
  induction pieces generalizing pieces' with
  | nil =>
      match pieces' with
      | [] => rfl
      | [ys] => exact absurd h.symm (by simpa using (hpieces' ys List.mem_cons_self).1)
      | ys :: zs :: rest' => exact absurd h (ne_intercalate_cons_cons (by simp) rest')
  | cons xs rest ih =>
      have hxs := hpieces xs List.mem_cons_self
      match rest, pieces' with
      | [], [] => exact absurd h (by simpa using hxs.1)
      | [], [ys] => simpa using h
      | [], ys :: zs :: rest' =>
          rw [List.intercalate_singleton] at h
          exact absurd h (ne_intercalate_cons_cons hxs.2 rest')
      | zs :: rest, [] => exact absurd h.symm (ne_intercalate_cons_cons (by simp) rest)
      | zs :: rest, [ys] =>
          rw [List.intercalate_singleton] at h
          exact absurd h.symm
            (ne_intercalate_cons_cons (hpieces' ys List.mem_cons_self).2 rest)
      | zs :: rest, ys :: zs' :: rest' =>
          have hys := hpieces' ys List.mem_cons_self
          rw [List.intercalate_cons_cons, List.intercalate_cons_cons, List.append_assoc,
            List.append_assoc] at h
          obtain ⟨rfl, hrest⟩ := append_separator_inj hab hxs.2 hys.2 h
          exact congrArg (xs :: ·) (ih (fun zs h => hpieces zs (List.mem_cons_of_mem _ h))
            (fun zs h => hpieces' zs (List.mem_cons_of_mem _ h)) hrest)

end Separator

/-! ### Signatures -/

/-- No text that types are shown as has a blank behind a comma. -/
theorem not_commaBlank_infix_squeeze (cs : List Char) : ¬ [',', ' '] <:+: squeeze cs := by
  intro hinfix
  obtain ⟨before, after, h⟩ := hinfix
  have hblank : squeeze cs = (before ++ [',']) ++ ' ' :: after := by
    simpa using h.symm
  obtain ⟨⟨p, hp, hword⟩, -⟩ := keepsApart_iff.mp (keepsApart_of_squeezeFrom_eq hblank)
  obtain rfl : ',' = p := by simpa using hp
  exact absurd hword (by decide)

/-- A text that some type is shown as. -/
def IsTypeText (text : String) : Prop :=
  text ≠ "" ∧ ∃ cs, text = String.ofList (squeeze cs)

theorem IsTypeText.toList {text : String} (h : IsTypeText text) :
    text.toList ≠ [] ∧ ¬ [',', ' '] <:+: text.toList := by
  obtain ⟨hne, cs, rfl⟩ := h
  refine ⟨fun hnil => hne (String.toList_inj.mp hnil), ?_⟩
  rw [String.toList_ofList]
  exact not_commaBlank_infix_squeeze cs

namespace Signature

/-- The marks of the shown form stand in no name, and the parameter types are shown types. -/
structure Legible (s : Signature) : Prop where
  owner : ':' ∉ s.owner.toList
  method : '(' ∉ s.method.toList
  params : ∀ text ∈ s.params, IsTypeText text

theorem toList_shown (s : Signature) :
    s.shown.toList = s.owner.toList ++ ':' :: ':' :: (s.method.toList ++
      '(' :: ([',', ' '].intercalate (s.params.map String.toList) ++ [')'])) := by
  simp [shown]

/-- **Shown signatures.** A text that types are shown as has no blank behind a comma. So legible
signatures that are shown alike are the same: the owner, the method, and one by one the types of the
parameters. -/
theorem shown_identifies :
    (∀ cs, ¬ [',', ' '] <:+: squeeze cs) ∧
    ∀ s t : Signature, s.Legible → t.Legible → s.shown = t.shown → s = t := by
  refine ⟨not_commaBlank_infix_squeeze, fun s t hs ht h => ?_⟩
  have hlist := congrArg String.toList h
  rw [toList_shown, toList_shown] at hlist
  obtain ⟨howner, hrest⟩ := append_mark_inj hs.owner ht.owner hlist
  obtain ⟨-, hrest⟩ := List.cons_eq_cons.mp hrest
  obtain ⟨hmethod, hrest⟩ := append_mark_inj hs.method ht.method hrest
  have hpieces : ∀ {u : Signature}, u.Legible → ∀ xs ∈ u.params.map String.toList,
      xs ≠ [] ∧ ¬ [',', ' '] <:+: xs := by
    intro u hu xs hxs
    obtain ⟨text, htext, rfl⟩ := List.mem_map.mp hxs
    exact (hu.params text htext).toList
  have hparams : s.params.map String.toList = t.params.map String.toList :=
    intercalate_separator_inj (by decide) (hpieces hs) (hpieces ht)
      (List.append_cancel_right hrest)
  obtain ⟨owner, method, params⟩ := s
  obtain ⟨owner', method', params'⟩ := t
  obtain rfl : owner = owner' := String.toList_inj.mp howner
  obtain rfl : method = method' := String.toList_inj.mp hmethod
  obtain rfl : params = params' :=
    (List.map_inj_right fun _ _ => String.toList_inj.mp).mp hparams
  rfl

/-- A method on a pair. -/
def pairSignature : Signature :=
  ⟨"Orders", "put", ["(u8,u16)", "&'a str"]⟩

/-- The same text in between, cut at another comma. -/
def cutSignature : Signature :=
  ⟨"Orders", "put", ["(u8", "u16)", "&'a str"]⟩

theorem shown_identifies_pairSignature :
    pairSignature.Legible ∧ cutSignature.Legible ∧
    pairSignature.shown = "Orders::put((u8,u16), &'a str)" ∧
    cutSignature.shown = "Orders::put((u8, u16), &'a str)" ∧
    pairSignature.shown ≠ cutSignature.shown := by
  have hpair : IsTypeText "(u8,u16)" := ⟨by decide, "( u8 , u16 )".toList, by decide⟩
  have hopen : IsTypeText "(u8" := ⟨by decide, "( u8".toList, by decide⟩
  have hclosed : IsTypeText "u16)" := ⟨by decide, "u16 )".toList, by decide⟩
  have hstr : IsTypeText "&'a str" := ⟨by decide, "& 'a  str".toList, by decide⟩
  have hs : pairSignature.Legible := ⟨by decide, by decide, by simp [pairSignature, hpair, hstr]⟩
  have ht : cutSignature.Legible :=
    ⟨by decide, by decide, by simp [cutSignature, hopen, hclosed, hstr]⟩
  refine ⟨hs, ht, by decide, by decide, fun h => ?_⟩
  exact absurd (shown_identifies.2 pairSignature cutSignature hs ht h) (by decide)

end Signature

end ClientTraits
