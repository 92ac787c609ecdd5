import Mathlib.Data.List.Chain
import ClientTraits.Proofs.Expansion.Outcome
import ClientTraits.Proofs.Rust.TraitName

/-!
# The name of the constant

The name of the constant beside a trait is the name of the trait in upper case, with underscores
between its words, and a front and a back of its own. Two things are to be known about it:

* What is put into the name of the trait? It is cut into words (`nameWords`), and an underscore goes
  between two of them; no word begins beside an underscore that is there already
  (`isChain_nameWords`).
* Is the result an identifier? It is if all characters of the name of the trait may stand in one
  (`isIdentifier_constantName_iff`). That is so for the name of every trait that can be read, except
  for a raw one, the `#` of which is not left out (`isIdentifier_constantName_iff_not_isRaw`).
-/

namespace ClientTraits

open Rust
open Text (isIdentifierRest)

/-! ### Words of a name -/

/-- Put a character in front of the first word, or start one. -/
def consWord (c : Char) : List (List Char) → List (List Char)
  | [] => [[c]]
  | word :: words => (c :: word) :: words

/-- The words of a name: it is cut in front of each character at which a word begins. -/
def nameWords : List Char → List (List Char)
  | [] => []
  | [c] => [[c]]
  | c :: d :: rest =>
    if beginsWord (some c) d rest then [c] :: nameWords (d :: rest)
    else consWord c (nameWords (d :: rest))

theorem flatten_consWord (c : Char) (words : List (List Char)) :
    (consWord c words).flatten = c :: words.flatten := by
  cases words <;> rfl

theorem nil_notMem_consWord {c : Char} {words : List (List Char)} (h : [] ∉ words) :
    [] ∉ consWord c words := by
  cases words with
  | nil => simp [consWord]
  | cons word words => simpa [consWord] using List.not_mem_of_not_mem_cons h

/-- The first word begins where the name does. -/
theorem exists_nameWords_cons (c : Char) (rest : List Char) :
    ∃ word words, nameWords (c :: rest) = (c :: word) :: words := by
  cases rest with
  | nil => exact ⟨[], [], rfl⟩
  | cons d rest =>
      rw [nameWords]
      split
      · exact ⟨[], _, rfl⟩
      · cases nameWords (d :: rest) with
        | nil => exact ⟨[], [], rfl⟩
        | cons word words => exact ⟨word, words, rfl⟩

/-- No word begins beside an underscore. -/
theorem ne_underscore_of_beginsWord {c d : Char} {rest : List Char}
    (h : beginsWord (some c) d rest = true) : c ≠ '_' ∧ d ≠ '_' := by
  have hupper : Text.isUppercase '_' = false := by decide
  have hlower : Text.isLowercase '_' = false := by decide
  have hdigit : ('0' ≤ '_' && '_' ≤ '9') = false := by decide
  constructor
  · rintro rfl
    rw [beginsWord, hupper, hlower, hdigit, Bool.false_and, Bool.or_false, Bool.or_false,
      Bool.and_false] at h
    cases h
  · rintro rfl
    rw [beginsWord, hupper, Bool.false_and] at h
    cases h

theorem flatten_nameWords (cs : List Char) : (nameWords cs).flatten = cs := by
  fun_induction nameWords cs with
  | case1 => rfl
  | case2 c => rfl
  | case3 c d rest hbegins ih => rw [List.flatten_cons, ih, List.singleton_append]
  | case4 c d rest hbegins ih => rw [flatten_consWord, ih]

theorem nil_notMem_nameWords (cs : List Char) : [] ∉ nameWords cs := by
  fun_induction nameWords cs with
  | case1 => exact List.not_mem_nil
  | case2 c => simp
  | case3 c d rest hbegins ih => simpa using ih
  | case4 c d rest hbegins ih => exact nil_notMem_consWord ih

/-- Where two words meet there is no underscore. -/
theorem isChain_nameWords (cs : List Char) :
    (nameWords cs).IsChain fun front back =>
      front.getLast? ≠ some '_' ∧ back.head? ≠ some '_' := by
  fun_induction nameWords cs with
  | case1 => exact List.IsChain.nil
  | case2 c => exact List.IsChain.singleton _
  | case3 c d rest hbegins ih =>
      obtain ⟨word, words, hwords⟩ := exists_nameWords_cons d rest
      obtain ⟨hc, hd⟩ := ne_underscore_of_beginsWord hbegins
      rw [hwords] at ih ⊢
      exact List.isChain_cons_cons.mpr ⟨⟨by simpa using hc, by simpa using hd⟩, ih⟩
  | case4 c d rest hbegins ih =>
      obtain ⟨word, words, hwords⟩ := exists_nameWords_cons d rest
      rw [hwords] at ih ⊢
      exact ih.imp_head fun h => ⟨by simpa using h.1, h.2⟩

/-- The words in upper case, with underscores between them. -/
theorem toUpper_cons_upperSnakeFrom (c : Char) (rest : List Char) :
    c.toUpper :: upperSnakeFrom (some c) rest =
      ['_'].intercalate ((nameWords (c :: rest)).map (List.map Char.toUpper)) := by
  induction rest generalizing c with
  | nil => rfl
  | cons d rest ih =>
      have hrest := ih d
      obtain ⟨word, words, hwords⟩ := exists_nameWords_cons d rest
      rw [upperSnakeFrom, nameWords]
      split
      · rw [hrest, List.map_cons, List.intercalate_cons_of_ne_nil (by simp [hwords])]
        rfl
      · rw [hrest, hwords]
        cases words with
        | nil => rfl
        | cons next words => rfl

/-- The name is put together of its words. -/
theorem upperSnakeFrom_none (cs : List Char) :
    upperSnakeFrom none cs = ['_'].intercalate ((nameWords cs).map (List.map Char.toUpper)) := by
  cases cs with
  | nil => rfl
  | cons c rest =>
      have hfirst : beginsWord none c rest = false := Bool.and_false _
      rw [← toUpper_cons_upperSnakeFrom, upperSnakeFrom, hfirst]
      rfl

/-! ### Identifiers -/

/-- The underscores put in make no difference. -/
theorem all_upperSnakeFrom (before : Option Char) (cs : List Char) :
    (upperSnakeFrom before cs).all isIdentifierRest = cs.all isIdentifierRest := by
  have hunderscore : isIdentifierRest '_' = true := by decide
  induction cs generalizing before with
  | nil => rfl
  | cons c rest ih =>
      rw [upperSnakeFrom, List.all_cons]
      split
      · rw [List.all_cons, List.all_cons, hunderscore, Text.isIdentifierRest_toUpper, ih,
          Bool.true_and]
      · rw [List.all_cons, Text.isIdentifierRest_toUpper, ih]

theorem toList_upperSnake (name : String) :
    (upperSnake name).toList = upperSnakeFrom none name.toList :=
  String.toList_ofList

theorem toList_constantName (name : String) :
    (constantName name).toList =
      '_' :: '_' :: (upperSnakeFrom none name.toList ++ "_REQUEST_SPECS".toList) := by
  rw [constantName, String.toList_append, String.toList_append, toList_upperSnake]
  rfl

theorem constantName_notMem_keywords (name : String) : constantName name ∉ keywords := by
  have hfront : ∀ word ∈ keywords, word.toList.take 2 ≠ ['_', '_'] := by decide +kernel
  intro hword
  refine hfront _ hword ?_
  rw [toList_constantName]
  rfl

/-- The name of the constant is an identifier if all characters of the other name may stand in
one. -/
theorem isIdentifier_constantName_iff (name : String) :
    isIdentifier (constantName name) = true ↔ ∀ c ∈ name.toList, isIdentifierRest c = true := by
  have hraw : ¬ IsRaw (constantName name).toList := by
    rw [toList_constantName]
    rintro ⟨rest, hrest⟩
    cases hrest
  have hback : "_REQUEST_SPECS".toList.all isIdentifierRest = true := by decide
  have hstart : Text.isIdentifierStart '_' = true := by decide
  rw [isIdentifier_iff_of_not_isRaw hraw, and_iff_right (constantName_notMem_keywords name),
    toList_constantName, IsWord, and_iff_right hstart, ← List.all_eq_true, List.all_cons,
    List.all_append, all_upperSnakeFrom, hback, Bool.and_true,
    Text.isIdentifierRest_of_isIdentifierStart hstart, Bool.true_and, List.all_eq_true]

/-- An identifier gives the constant a legal name if and only if it is not raw. -/
theorem isIdentifier_constantName_iff_not_isRaw {name : String} (h : isIdentifier name = true) :
    isIdentifier (constantName name) = true ↔ ¬ IsRaw name.toList := by
  rw [isIdentifier_constantName_iff]
  constructor
  · rintro hrest ⟨word, hword⟩
    have hash : isIdentifierRest '#' = true := hrest '#' (by rw [← hword]; simp)
    exact absurd hash (by decide)
  · intro hraw
    exact ((isIdentifier_iff_of_not_isRaw hraw).mp h).2.isIdentifierRest

/-! ### Expansions -/

/-- A trait that can be read and expanded is found by doing so. -/
theorem exists_expansion_of_any (source : String) (p : Trait → Expansion → Bool)
    (h : ((readTrait? source).any fun t => (expand [] t).toOption.any (p t)) = true) :
    ∃ t x, readTrait? source = some t ∧ expand [] t = .ok x ∧ p t x = true := by
  cases ht : readTrait? source with
  | none => rw [ht] at h; cases h
  | some t =>
      rw [ht, Option.any_some] at h
      cases hx : expand [] t with
      | error e => rw [hx] at h; cases h
      | ok x =>
          rw [hx] at h
          exact ⟨t, x, rfl, hx, h⟩

/-- **The name of the constant.** An identifier gives the constant a legal name if and only if it is
not raw. The name of every trait that can be read is an identifier, and its expansion can be written
down under the same condition. The name in between is the upper case of the name of the trait, cut
into pieces with an underscore between each two of them. No piece is empty, and none ends or begins
with an underscore of its own where it meets another. -/
theorem isIdentifier_constantName (name : String) :
    (isIdentifier name = true →
      (isIdentifier (constantName name) = true ↔ ¬ IsRaw name.toList)) ∧
    (∀ source t, readTrait? source = some t → t.name = name → isIdentifier name = true ∧
      ∀ arguments x, expand arguments t = .ok x →
        x.constantName = "__" ++ upperSnake name ++ "_REQUEST_SPECS" ∧
        (x.isWritable = true ↔ ¬ IsRaw name.toList)) ∧
    ∃ pieces : List (List Char),
      (upperSnake name).toList = ['_'].intercalate pieces ∧
      pieces.flatten = name.toList.map Char.toUpper ∧ [] ∉ pieces ∧
      pieces.IsChain fun front back => front.getLast? ≠ some '_' ∧ back.head? ≠ some '_' := by
  refine ⟨isIdentifier_constantName_iff_not_isRaw, ?_,
    (nameWords name.toList).map (List.map Char.toUpper), ?_, ?_, ?_, ?_⟩
  · intro source t ht hname
    have hidentifier : isIdentifier name = true := hname ▸ isIdentifier_name_of_readTrait? ht
    refine ⟨hidentifier, fun arguments x hx => ?_⟩
    have hconstant : x.constantName = constantName name :=
      hname ▸ yields_constantName_expand arguments t x hx
    refine ⟨hconstant, ?_⟩
    rw [Expansion.isWritable, hconstant]
    exact isIdentifier_constantName_iff_not_isRaw hidentifier
  · rw [toList_upperSnake, upperSnakeFrom_none]
  · rw [← List.map_flatten, flatten_nameWords]
  · intro hnil
    obtain ⟨word, hword, hempty⟩ := List.mem_map.mp hnil
    rw [List.map_eq_nil_iff.mp hempty] at hword
    exact nil_notMem_nameWords _ hword
  · have hunderscore (c : Option Char) : c.map Char.toUpper = some '_' ↔ c = some '_' := by
      cases c <;> simp [Text.toUpper_eq_underscore_iff]
    rw [List.isChain_map]
    simp only [List.getLast?_map, List.head?_map, ne_eq, hunderscore]
    exact isChain_nameWords name.toList

/-- The text of a trait with one method. -/
def pingSource (name : String) : String :=
  "pub trait " ++ name ++ " \x7b #[get(\"/ping\")] async fn ping(&self); \x7d"

/-- Words begin behind a lower case letter and behind a digit, but not behind an underscore. -/
theorem isIdentifier_constantName_getHTTP2Page :
    ∃ t x, readTrait? (pingSource "getHTTP2Page_Ünit") = some t ∧ expand [] t = .ok x ∧
      t.name = "getHTTP2Page_Ünit" ∧ isIdentifier (constantName "getHTTP2Page_Ünit") = true ∧
      x.constantName = "__GET_HTTP2_PAGE_ÜNIT_REQUEST_SPECS" ∧ x.isWritable = true := by
  obtain ⟨t, x, ht, hx, hname⟩ := exists_expansion_of_any
    (pingSource "getHTTP2Page_Ünit") (fun t _ => decide (t.name = "getHTTP2Page_Ünit"))
    (by decide +kernel)
  have hname : t.name = "getHTTP2Page_Ünit" := of_decide_eq_true hname
  have hraw : ¬ IsRaw "getHTTP2Page_Ünit".toList := by decide
  obtain ⟨hlegal, hread, -⟩ := isIdentifier_constantName "getHTTP2Page_Ünit"
  obtain ⟨hidentifier, hexpand⟩ := hread _ t ht hname
  obtain ⟨hconstant, hwritable⟩ := hexpand [] x hx
  refine ⟨t, x, ht, hx, hname, (hlegal hidentifier).mpr hraw, ?_, hwritable.mpr hraw⟩
  rw [hconstant]
  decide +kernel

/-- The `#` of a raw name is kept, so that the constant beside the trait has no legal name. -/
theorem not_isIdentifier_constantName_rawUsers :
    isIdentifier "r#Users" = true ∧ isIdentifier (constantName "r#Users") = false ∧
    ∃ t x, readTrait? (pingSource "r#Users") = some t ∧ expand [] t = .ok x ∧
      t.name = "r#Users" ∧ x.constantName = "__R#USERS_REQUEST_SPECS" ∧ x.isWritable = false := by
  obtain ⟨t, x, ht, hx, h⟩ := exists_expansion_of_any (pingSource "r#Users")
    (fun t x => decide (t.name = "r#Users" ∧
      x.constantName = "__R#USERS_REQUEST_SPECS" ∧ x.isWritable = false))
    (by decide +kernel)
  exact ⟨by decide +kernel, by decide +kernel, t, x, ht, hx, of_decide_eq_true h⟩

end ClientTraits
