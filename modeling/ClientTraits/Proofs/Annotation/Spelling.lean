import ClientTraits.Annotation.Client
import ClientTraits.Proofs.List
import ClientTraits.Proofs.Annotation.Arguments

/-!
# Spellings of helper attributes

A string of a helper attribute may be given by its position or by the name of its slot. The strings
by position fill the first slots; the others are given by name, in any order, and anywhere among
the strings by position (`Arguments.Fills`). However this is done, the attribute says the same
(`spellings_agree`).

## Proof shape

All readers look a slot up by its position and its name, and by nothing else (`Arguments.string?`).
So all that has to be known of an argument list is what it has in each slot
(`Arguments.Fills.string?_eq`). A name is in the list once, so that its place in the list makes no
difference (`lookup_eq_some_iff_of_nodup`).
-/

namespace ClientTraits

open Rust

/-! ### Slots -/

theorem map_fst_zip_sublist {α β : Type} (as : List α) (bs : List β) :
    ((as.zip bs).map Prod.fst).Sublist as := by
  induction as generalizing bs with
  | nil => simp
  | cons a as ih =>
      cases bs with
      | nil => simp
      | cons b bs => exact (ih bs).cons_cons a

/-- A slot is among the later ones if it comes behind them, and its value stands where it does. -/
theorem mem_drop_zip_iff {α β : Type} {as : List α} (has : as.Nodup) {bs : List β} {i : Nat} {a : α}
    (ha : as[i]? = some a) {count : Nat} {b : β} :
    (a, b) ∈ (as.zip bs).drop count ↔ count ≤ i ∧ bs[i]? = some b := by
  rw [List.mem_iff_getElem?]
  constructor
  · rintro ⟨k, hk⟩
    rw [List.getElem?_drop, List.getElem?_zip_eq_some] at hk
    obtain ⟨hlength, -⟩ := List.getElem?_eq_some_iff.mp ha
    obtain rfl : i = count + k := (List.getElem?_inj hlength has).mp (ha.trans hk.1.symm)
    exact ⟨Nat.le_add_right count k, hk.2⟩
  · rintro ⟨hcount, hb⟩
    refine ⟨i - count, ?_⟩
    rw [List.getElem?_drop, Nat.add_sub_cancel' hcount, List.getElem?_zip_eq_some]
    exact ⟨ha, hb⟩

namespace Arguments

/-- Strings by position and strings by name in one list, both in the order they have there. -/
inductive Interleaves : List String → List (String × String) → List Written → Prop
  | nil : Interleaves [] [] []
  | position (s : String) {positional : List String} {named : List (String × String)}
      {items : List Written} (h : Interleaves positional named items) :
      Interleaves (s :: positional) named (.positional s :: items)
  | name (name text value : String) {positional : List String} {named : List (String × String)}
      {items : List Written} (h : Interleaves positional named items) :
      Interleaves positional ((name, value) :: named)
        (.named name (.literal ⟨text, .string value⟩) :: items)

/-- The arguments give the slots these values: the first of them by position, the others by name
and in any order. -/
def Fills (slots values : List String) (items : List Written) : Prop :=
  ∃ count named, Interleaves (values.take count) named items ∧
    named.Perm ((slots.zip values).drop count)

theorem ofWritten_map_positional (values : List String) :
    ofWritten (values.map .positional) = ⟨values, []⟩ := by
  induction values with
  | nil => rfl
  | cons s rest ih =>
      exact congrArg (fun args => Arguments.mk (s :: args.positional) args.named) ih

namespace Interleaves

variable {positional : List String} {named : List (String × String)} {items : List Written}

theorem positional_eq (h : Interleaves positional named items) :
    (ofWritten items).positional = positional := by
  induction h with
  | nil => rfl
  | position s h ih => exact congrArg (s :: ·) ih
  | name name text value h ih => exact ih

theorem map_fst_named (h : Interleaves positional named items) :
    (ofWritten items).named.map Prod.fst = named.map Prod.fst := by
  induction h with
  | nil => rfl
  | position s h ih => exact ih
  | name name text value h ih => exact congrArg (name :: ·) ih

/-- What stands under a name is a string, and if there is none, the position counts. -/
theorem string?_eq (h : Interleaves positional named items) (position : Nat) (name : String) :
    (ofWritten items).string? position name =
      .ok ((named.lookup name).or positional[position]?) := by
  have hvalue : (named.lookup name = Option.none ∧ (ofWritten items).value? name = Option.none) ∨
      ∃ text s, named.lookup name = some s ∧
        (ofWritten items).value? name = some (.literal ⟨text, .string s⟩) := by
    clear position
    induction h with
    | nil => exact .inl ⟨rfl, rfl⟩
    | position s h ih => exact ih
    | name other text value h ih =>
        by_cases hname : name = other
        · subst hname
          exact .inr ⟨text, value, by simp, by simp [value?, ofWritten]⟩
        · have hother : (other == name) = false := beq_eq_false_iff_ne.mpr (Ne.symm hname)
          rw [List.lookup_cons, beq_eq_false_iff_ne.mpr hname]
          simpa [value?, ofWritten, hother] using ih
  rw [string?]
  rcases hvalue with ⟨hlookup, hnone⟩ | ⟨text, s, hlookup, hsome⟩
  · rw [hnone, hlookup, Option.none_or, ← h.positional_eq]
  · rw [hsome, hlookup, Option.some_or]

end Interleaves

namespace Fills

variable {slots values : List String} {items : List Written}

/-- All names are names of slots. -/
theorem expectNames_eq (h : Fills slots values items) :
    (ofWritten items).expectNames slots = .ok () := by
  obtain ⟨count, named, hitems, hperm⟩ := h
  refine Arguments.expectNames_eq_ok_iff.mpr fun pair hpair => ?_
  have hfst : pair.1 ∈ named.map Prod.fst :=
    hitems.map_fst_named ▸ List.mem_map_of_mem hpair
  obtain ⟨slot, hslot, heq⟩ := List.mem_map.mp hfst
  rw [← heq]
  exact (List.of_mem_zip (List.mem_of_mem_drop (hperm.mem_iff.mp hslot))).1

/-- Each slot has its value. -/
theorem string?_eq (h : Fills slots values items) (hslots : slots.Nodup) {i : Nat} {name : String}
    (hname : slots[i]? = some name) : (ofWritten items).string? i name = .ok values[i]? := by
  obtain ⟨count, named, hitems, hperm⟩ := h
  have hkeys : (named.map Prod.fst).Nodup := by
    rw [(hperm.map Prod.fst).nodup_iff, List.map_drop]
    exact ((List.drop_sublist _ _).trans (map_fst_zip_sublist slots values)).nodup hslots
  have hmem : ∀ s, (name, s) ∈ named ↔ count ≤ i ∧ values[i]? = some s := fun s => by
    rw [hperm.mem_iff, mem_drop_zip_iff hslots hname]
  rw [hitems.string?_eq]
  congr 1
  cases hlookup : named.lookup name with
  | some s =>
      rw [Option.some_or, ((hmem s).mp ((lookup_eq_some_iff_of_nodup hkeys).mp hlookup)).2]
  | none =>
      rw [Option.none_or, List.getElem?_take]
      split
      · rfl
      · next hcount =>
          cases hvalue : values[i]? with
          | none => rfl
          | some s =>
              have hpair := (hmem s).mpr ⟨Nat.le_of_not_lt hcount, hvalue⟩
              rw [(lookup_eq_some_iff_of_nodup hkeys).mpr hpair] at hlookup
              cases hlookup

/-- All strings by position. -/
theorem of_positional (slots values : List String) :
    Fills slots values (values.map .positional) := by
  have hitems : ∀ strings : List String, Interleaves strings [] (strings.map .positional) := by
    intro strings
    induction strings with
    | nil => exact .nil
    | cons s rest ih => exact .position s ih
  refine ⟨values.length, [], ?_, ?_⟩
  · rw [List.take_length]
    exact hitems values
  · rw [List.drop_eq_nil_of_le (by rw [List.length_zip]; exact Nat.min_le_right _ _)]

end Fills

end Arguments

/-- The attribute gives the slots these values, by position or by name. -/
def Rust.Attribute.Fills (a : Attribute) (slots values : List String) : Prop :=
  ∃ items, Arguments.Writes items a.input ∧ Arguments.Fills slots values items

/-- The attribute lists these values by position. -/
def Rust.Attribute.Lists (a : Attribute) (values : List String) : Prop :=
  Arguments.Writes (values.map .positional) a.input

namespace Helper

variable {a b : Attribute} {slots values : List String}

/-- Two attributes are read alike as far as these slots go. -/
def SameSlots (slots : List String) (a b : Attribute) : Prop :=
  ∃ args args', arguments a slots = pure args ∧ arguments b slots = pure args' ∧
    ∀ i name, slots[i]? = some name → args.string? i name = args'.string? i name

theorem exists_arguments_of_fills (ha : a.Fills slots values) (hslots : slots.Nodup) :
    ∃ args, arguments a slots = pure args ∧
      ∀ i name, slots[i]? = some name → args.string? i name = .ok values[i]? := by
  obtain ⟨items, hwrites, hfills⟩ := ha
  refine ⟨.ofWritten items, ?_, fun i name => hfills.string?_eq hslots⟩
  rw [arguments, Arguments.ofAttribute_of_writes hwrites]
  exact congrArg (· >>= fun _ => pure (Arguments.ofWritten items)) hfills.expectNames_eq

theorem sameSlots_of_fills (hslots : slots.Nodup) (ha : a.Fills slots values)
    (hb : b.Fills slots values) : SameSlots slots a b := by
  obtain ⟨args, hargs, hstring⟩ := exists_arguments_of_fills ha hslots
  obtain ⟨args', hargs', hstring'⟩ := exists_arguments_of_fills hb hslots
  refine ⟨args, args', hargs, hargs', fun i name hname => ?_⟩
  rw [hstring i name hname, hstring' i name hname]

/-! Each reader looks at nothing but its slots. -/

theorem genericRoute_congr (h : SameSlots ["method", "url"] a b) :
    genericRoute a = genericRoute b := by
  obtain ⟨args, args', ha, hb, hslots⟩ := h
  simp only [genericRoute, ha, hb, pure_bind, Arguments.string, hslots 0 "method" rfl,
    hslots 1 "url" rfl]

theorem shorthandRoute_congr (h : SameSlots ["url"] a b) (verb : Verb) :
    shorthandRoute verb a = shorthandRoute verb b := by
  obtain ⟨args, args', ha, hb, hslots⟩ := h
  simp only [shorthandRoute, ha, hb, pure_bind, Arguments.string, hslots 0 "url" rfl]

theorem header_congr (h : SameSlots ["name", "value"] a b) : header a = header b := by
  obtain ⟨args, args', ha, hb, hslots⟩ := h
  simp only [header, ha, hb, pure_bind, Arguments.string, hslots 0 "name" rfl,
    hslots 1 "value" rfl]

theorem query_congr (h : SameSlots ["name", "value"] a b) : query a = query b := by
  obtain ⟨args, args', ha, hb, hslots⟩ := h
  simp only [query, ha, hb, pure_bind, Arguments.string, hslots 0 "name" rfl,
    hslots 1 "value" rfl]

theorem rename_congr (h : SameSlots ["name"] a b) : rename a = rename b := by
  obtain ⟨args, args', ha, hb, hslots⟩ := h
  simp only [rename, ha, hb, pure_bind, Arguments.string, hslots 0 "name" rfl]

theorem binding_congr (h : SameSlots ["name"] a b) : binding a = binding b := by
  obtain ⟨args, args', ha, hb, hslots⟩ := h
  simp only [binding, ha, hb, pure_bind, hslots 0 "name" rfl]

theorem payloadMark_congr (h : SameSlots ["content_type"] a b) :
    payloadMark a = payloadMark b := by
  obtain ⟨args, args', ha, hb, hslots⟩ := h
  simp only [payloadMark, ha, hb, pure_bind, hslots 0 "content_type" rfl]

/-- What an attribute lists is read in this order, whatever the slots are called. -/
theorem arguments_of_lists (ha : a.Lists values) (slots : List String) :
    arguments a slots = pure ⟨values, []⟩ := by
  rw [arguments, Arguments.ofAttribute_of_writes ha, Arguments.ofWritten_map_positional]
  rfl

end Helper

/-! ### Attributes with slots -/

/-- The slots for strings of a method's helper attribute. -/
def Method.slots? : String → Option (List String)
  | "request" => some ["method", "url"]
  | "header" => some ["name", "value"]
  | "query" => some ["name", "value"]
  | name => (Verb.ofShorthand? name).map fun _ => ["url"]

/-- The slots for strings of a trait's helper attribute. -/
def Shared.slots? : String → Option (List String)
  | "header" => some ["name", "value"]
  | _ => none

/-- The slots for strings of a parameter's helper attribute. -/
def Param.slots? : String → Option (List String)
  | "param" => some ["name"]
  | "query" => some ["name"]
  | "attr" => some ["name"]
  | "body" => some ["content_type"]
  | _ => none

section Congruence

variable {a b : Attribute} {name : String} {slots values : List String}

theorem Method.annotate_of_shorthand {verb : Verb} (ha : a.name? = some name)
    (hverb : Verb.ofShorthand? name = some verb) (m : Method) :
    m.annotate a = do return { m with routes := m.routes ++ [← Helper.shorthandRoute verb a] } := by
  unfold annotate
  rw [ha]
  unfold Verb.ofShorthand? at hverb
  split at hverb <;> cases hverb <;> rfl

theorem Method.annotate_congr (ha : a.name? = some name) (hb : b.name? = some name)
    (hslots : Method.slots? name = some slots) (h : Helper.SameSlots slots a b) (m : Method) :
    m.annotate a = m.annotate b := by
  unfold slots? at hslots
  split at hslots
  · cases hslots
    rw [annotate, annotate, ha, hb, Helper.genericRoute_congr h]
    rfl
  · cases hslots
    rw [annotate, annotate, ha, hb, Helper.header_congr h]
    rfl
  · cases hslots
    rw [annotate, annotate, ha, hb, Helper.query_congr h]
    rfl
  · obtain ⟨verb, hverb, rfl⟩ := Option.map_eq_some_iff.mp hslots
    rw [annotate_of_shorthand ha hverb, annotate_of_shorthand hb hverb,
      Helper.shorthandRoute_congr h]

theorem Shared.annotate_congr (ha : a.name? = some name) (hb : b.name? = some name)
    (hslots : Shared.slots? name = some slots) (h : Helper.SameSlots slots a b) (s : Shared) :
    s.annotate a = s.annotate b := by
  unfold slots? at hslots
  split at hslots
  · cases hslots
    simp [annotate, Attribute.hasName_eq_of_name? ha,
      Attribute.hasName_eq_of_name? hb, Helper.header_congr h]
  · cases hslots

theorem Param.annotate_congr (ha : a.name? = some name) (hb : b.name? = some name)
    (hslots : Param.slots? name = some slots) (h : Helper.SameSlots slots a b) (p : Param) :
    p.annotate a = p.annotate b := by
  unfold slots? at hslots
  split at hslots
  · cases hslots
    simp [annotate, Attribute.hasName_eq_of_name? ha,
      Attribute.hasName_eq_of_name? hb, Helper.rename_congr h]
  · cases hslots
    simp [annotate, Attribute.hasName_eq_of_name? ha,
      Attribute.hasName_eq_of_name? hb, Helper.binding_congr h]
  · cases hslots
    simp [annotate, Attribute.hasName_eq_of_name? ha,
      Attribute.hasName_eq_of_name? hb, Helper.binding_congr h]
  · cases hslots
    simp [annotate, Attribute.hasName_eq_of_name? ha,
      Attribute.hasName_eq_of_name? hb, Helper.payloadMark_congr h]
  · cases hslots

end Congruence

section Distinct

variable {name : String} {slots : List String}

theorem Method.nodup_slots (h : Method.slots? name = some slots) : slots.Nodup := by
  unfold slots? at h
  split at h
  case h_4 =>
    obtain ⟨verb, -, rfl⟩ := Option.map_eq_some_iff.mp h
    decide
  all_goals
    cases h
    decide

theorem Shared.nodup_slots (h : Shared.slots? name = some slots) : slots.Nodup := by
  unfold slots? at h
  split at h <;> cases h
  decide

theorem Param.nodup_slots (h : Param.slots? name = some slots) : slots.Nodup := by
  unfold slots? at h
  split at h <;> cases h <;> decide

end Distinct

/-- **Spellings.** An attribute that gives some slots their values, the first ones by position and
the others by name, says the same on a method, a trait or a parameter as the attribute that lists
the values in the order of the slots. If every slot has a value, this is what it says. -/
theorem spellings_agree {a b : Attribute} {name : String} {slots values : List String}
    (ha : a.hasName name = true) (hb : b.hasName name = true) (hfills : a.Fills slots values)
    (hlists : b.Lists values) :
    (∀ m : Method, Method.slots? name = some slots → m.annotate a = m.annotate b) ∧
    (∀ s : Shared, Shared.slots? name = some slots → s.annotate a = s.annotate b) ∧
    (∀ p : Param, Param.slots? name = some slots → p.annotate a = p.annotate b) ∧
    (∀ x y, values = [x, y] →
      (slots = ["method", "url"] → x ≠ "" → Helper.genericRoute a = .ok ⟨.ofToken x, y, false⟩) ∧
      (slots = ["name", "value"] →
        Helper.header a = .ok ⟨x, y⟩ ∧ Helper.query a = .ok (.fixed x y))) ∧
    ∀ x, values = [x] →
      (slots = ["url"] → ∀ verb, Helper.shorthandRoute verb a = .ok ⟨verb, x, true⟩) ∧
      (slots = ["name"] → Helper.rename a = .ok x ∧ Helper.binding a = .ok ⟨some x⟩) ∧
      (slots = ["content_type"] → Helper.payloadMark a = .ok ⟨some x⟩) := by
  have ha := Attribute.name?_eq_some_iff.mpr ha
  have hb := Attribute.name?_eq_some_iff.mpr hb
  have hsame : slots.Nodup → Helper.SameSlots slots a b := fun hslots =>
    Helper.sameSlots_of_fills hslots hfills
      ⟨values.map .positional, hlists, .of_positional slots values⟩
  have hlist := Helper.arguments_of_lists hlists
  refine ⟨fun m h => m.annotate_congr ha hb h (hsame (Method.nodup_slots h)),
    fun s h => s.annotate_congr ha hb h (hsame (Shared.nodup_slots h)),
    fun p h => p.annotate_congr ha hb h (hsame (Param.nodup_slots h)), ?_, ?_⟩
  · rintro x y rfl
    refine ⟨?_, ?_⟩
    · rintro rfl hx
      have hverb : ¬ x.isEmpty = true := by simpa using hx
      rw [Helper.genericRoute_congr (hsame (by decide)), Helper.genericRoute, hlist]
      exact if_neg hverb
    · rintro rfl
      rw [Helper.header_congr (hsame (by decide)), Helper.query_congr (hsame (by decide)),
        Helper.header, Helper.query, hlist]
      exact ⟨rfl, rfl⟩
  · rintro x rfl
    refine ⟨?_, ?_, ?_⟩
    · rintro rfl verb
      rw [Helper.shorthandRoute_congr (hsame (by decide)), Helper.shorthandRoute, hlist]
      rfl
    · rintro rfl
      rw [Helper.rename_congr (hsame (by decide)), Helper.binding_congr (hsame (by decide)),
        Helper.rename, Helper.binding, hlist]
      exact ⟨rfl, rfl⟩
    · rintro rfl
      rw [Helper.payloadMark_congr (hsame (by decide)), Helper.payloadMark, hlist]
      rfl

/-- A header with its value in front of its name, and a comma at the end. -/
def mixedHeader : Attribute :=
  ⟨false, ["header"], .tokens
    [.ident "value", .punct '=' false, .literal ⟨"r\"a, b\"", .string "a, b"⟩, .punct ',' false,
      .literal ⟨"\"Accept\"", .string "Accept"⟩, .punct ',' false]⟩

/-- The same header by position. -/
def listedHeader : Attribute :=
  ⟨false, ["header"], .tokens
    [.literal ⟨"\"Accept\"", .string "Accept"⟩, .punct ',' false,
      .literal ⟨"\"a, b\"", .string "a, b"⟩]⟩

theorem spellings_agree_mixedHeader :
    mixedHeader.Fills ["name", "value"] ["Accept", "a, b"] ∧
    listedHeader.Lists ["Accept", "a, b"] ∧
    (Method.bare "find" true).annotate mixedHeader =
      (Method.bare "find" true).annotate listedHeader ∧
    Helper.header mixedHeader = .ok ⟨"Accept", "a, b"⟩ := by
  have hfills : mixedHeader.Fills ["name", "value"] ["Accept", "a, b"] := by
    refine ⟨[.named "value" (.literal ⟨"r\"a, b\"", .string "a, b"⟩), .positional "Accept"],
      .tokens ?_, 1, [("value", "a, b")], .name "value" _ "a, b" (.position "Accept" .nil), .refl _⟩
    exact .cons (Arguments.WritesOne.named (by decide) false _) false
      (.cons (Arguments.WritesOne.positional _ _) false .nil)
  have hlists : listedHeader.Lists ["Accept", "a, b"] :=
    .tokens (.cons (Arguments.WritesOne.positional _ _) false
      (.last (Arguments.WritesOne.positional _ _)))
  have hmixed : mixedHeader.hasName "header" = true := by decide
  have hlisted : listedHeader.hasName "header" = true := by decide
  obtain ⟨hmethod, -, -, hpair, -⟩ := spellings_agree hmixed hlisted hfills hlists
  exact ⟨hfills, hlists, hmethod (.bare "find" true) rfl, ((hpair _ _ rfl).2 rfl).1⟩

end ClientTraits
