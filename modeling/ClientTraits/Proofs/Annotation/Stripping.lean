import Mathlib.Data.List.Forall2
import ClientTraits.Expansion
import ClientTraits.Proofs.Annotation.Declared

/-!
# Stripping takes away what is read

Helper attributes are known twice: to the functions that read them, by their cases, and to
`Trait.stripped`, by three lists of names. The lists agree with the cases (`Shared.heeds`,
`Method.heeds`, `Param.heeds`): on a trait, on a method and on a typed parameter, the attributes
that are stripped are those that are read there (`Trait.stripsTo_stripped`). The same name may be
read in one place and be foreign in another, as `query` is on a trait.

An attribute is read if it can make a difference. This is said of its path and not of what follows
it, since `#[headers()]` is read and adds nothing.

## Proof shape

Going over attributes that are not read changes nothing (`Heeds.foldlM_withoutHelpers`), so that the
declaration of a stripped trait has none of its settings. Whatever is read, it changes settings only
(`Param.yields_annotate_cleared`, `Method.yields_annotate_cleared`), so that the rest of the
declaration stays.
-/

namespace ClientTraits

open Rust

/-! ### Attributes that are read -/

/-- Some attribute of this path makes a difference to `annotate`, by what it adds or by an error. -/
def Rust.Attribute.IsReadBy {α : Type} (annotate : α → Attribute → Except AnnotationError α)
    (a : Attribute) : Prop :=
  ∃ subject input, annotate subject { a with input := input } ≠ .ok subject

@[simp]
theorem name?_input (a : Attribute) (input : AttributeInput) :
    { a with input := input }.name? = a.name? :=
  rfl

/-- The attributes of these names have a say in `annotate`, and no others have. -/
structure Heeds {α : Type} (annotate : α → Attribute → Except AnnotationError α)
    (helpers : List String) : Prop where
  foreign : ∀ subject (a : Attribute), ¬ helpers.any a.hasName = true →
    annotate subject a = .ok subject
  /-- With a value instead of arguments, they are refused. -/
  value : ∀ subject (a : Attribute), helpers.any a.hasName = true →
    annotate subject { a with input := .value } = .error .notParenthesized

namespace Heeds

variable {α : Type} {annotate : α → Attribute → Except AnnotationError α} {helpers : List String}

theorem isReadBy_iff (h : Heeds annotate helpers) (subject : α) (a : Attribute) :
    a.IsReadBy annotate ↔ helpers.any a.hasName = true := by
  constructor
  · intro hread
    obtain ⟨subject, input, hne⟩ := hread
    by_contra hno
    -- The name of an attribute does not depend on its input.
    exact hne (h.foreign subject _ hno)
  · intro ha
    refine ⟨subject, .value, ?_⟩
    rw [h.value subject a ha]
    exact fun heq => nomatch heq

/-- Attributes that are not read change nothing. -/
theorem foldlM_withoutHelpers (h : Heeds annotate helpers) (subject : α)
    (attributes : List Attribute) :
    (withoutHelpers helpers attributes).foldlM annotate subject = .ok subject := by
  induction attributes with
  | nil => rfl
  | cons a rest ih =>
      rw [withoutHelpers]
      by_cases ha : helpers.any a.hasName = true
      · rw [List.filter_cons_of_neg (by simp [ha])]
        exact ih
      · rw [List.filter_cons_of_pos (by simp [ha]), List.foldlM_cons, h.foreign subject a ha]
        exact ih

end Heeds

theorem withoutHelpers_eq_filter {p : Attribute → Prop} [DecidablePred p] {helpers : List String}
    (h : ∀ a, p a ↔ helpers.any a.hasName = true) (attributes : List Attribute) :
    withoutHelpers helpers attributes = attributes.filter fun a => ¬ p a := by
  refine List.filter_congr fun a _ => ?_
  rw [Bool.eq_iff_iff]
  simp [h]

/-! ### The lists of names -/

theorem Shared.heeds : Heeds Shared.annotate Helper.ofTrait where
  foreign s a h := by
    simp only [Helper.ofTrait, List.any_cons, List.any_nil, Bool.or_eq_true, not_or] at h
    obtain ⟨hheader, hheaders, htimeout, -⟩ := h
    rw [annotate, if_neg hheader, if_neg hheaders, if_neg htimeout]
    rfl
  value s a h := by
    simp only [Helper.ofTrait, List.any_cons, List.any_nil, Bool.or_false, Bool.or_eq_true] at h
    rw [annotate]
    split
    · rfl
    · next hheader =>
        split
        · rfl
        · next hheaders =>
            exact (if_pos ((h.resolve_left hheader).resolve_left hheaders)).trans rfl

/-- The shorthand attributes are among the helper attributes of a method. -/
theorem Verb.mem_ofMethod_of_ofShorthand? {name : String} {v : Verb}
    (h : ofShorthand? name = some v) : name ∈ Helper.ofMethod := by
  unfold ofShorthand? at h
  split at h
  all_goals first
    | decide
    | cases h

theorem Method.heeds : Heeds Method.annotate Helper.ofMethod where
  foreign m a h := by
    have hno : ∀ name ∈ Helper.ofMethod, a.name? ≠ some name := fun name hname ha =>
      h (List.any_eq_true.mpr ⟨name, hname, Attribute.name?_eq_some_iff.mp ha⟩)
    unfold annotate
    split
    case h_1 => rfl
    case h_8 name _ _ _ _ _ _ hname =>
      -- No other helper has this name, but it may be the shorthand of a verb.
      split
      · next hverb => exact absurd hname (hno name (Verb.mem_ofMethod_of_ofShorthand? hverb))
      · rfl
    all_goals next hname => exact absurd hname (hno _ (by decide))
  value m a h := by
    obtain ⟨name, hname, ha⟩ := List.any_eq_true.mp h
    rw [annotate, name?_input, Attribute.name?_eq_some_iff.mpr ha]
    simp only [Helper.ofMethod, List.mem_cons, List.not_mem_nil, or_false] at hname
    rcases hname with rfl | rfl | rfl | rfl | rfl | rfl | rfl | rfl | rfl | rfl | rfl | rfl | rfl
    all_goals rfl

theorem Param.heeds : Heeds Param.annotate Helper.ofParam where
  foreign p a h := by
    simp only [Helper.ofParam, List.any_cons, List.any_nil, Bool.or_eq_true, not_or] at h
    obtain ⟨hparam, hquery, hattr, hbody, -⟩ := h
    rw [annotate, if_neg hparam, if_neg hquery, if_neg hattr, if_neg hbody]
    rfl
  value p a h := by
    simp only [Helper.ofParam, List.any_cons, List.any_nil, Bool.or_false, Bool.or_eq_true] at h
    rw [annotate]
    split
    · rfl
    · next hparam =>
        split
        · rfl
        · next hquery =>
            split
            · rfl
            · next hattr =>
                have hbody := ((h.resolve_left hparam).resolve_left hquery).resolve_left hattr
                exact (if_pos hbody).trans rfl

instance : DecidablePred (Attribute.IsReadBy Shared.annotate) := fun a =>
  decidable_of_iff' _ (Shared.heeds.isReadBy_iff ⟨[], .unset⟩ a)

instance : DecidablePred (Attribute.IsReadBy Method.annotate) := fun a =>
  decidable_of_iff' _ (Method.heeds.isReadBy_iff (.bare "" false) a)

instance : DecidablePred (Attribute.IsReadBy Param.annotate) := fun a =>
  decidable_of_iff' _ (Param.heeds.isReadBy_iff (.plain "" "") a)

/-! ### The stripped trait -/

namespace Rust

/-- The second input is the first one without the attributes that are read from it. Nothing is read
from a receiver. -/
inductive Input.StripsTo : Input → Input → Prop
  | receiver (attributes : List Attribute) : StripsTo (receiver attributes) (receiver attributes)
  | typed (attributes : List Attribute) (pattern : Pattern) (type : RustType) :
      StripsTo (typed attributes pattern type)
        (typed (attributes.filter fun a => ¬ a.IsReadBy Param.annotate) pattern type)

/-- The second method is the first one without the attributes that are read from it and from its
parameters. -/
structure Function.StripsTo (f f' : Function) : Prop where
  attributes : f'.attributes = f.attributes.filter fun a => ¬ a.IsReadBy Method.annotate
  name : f'.name = f.name
  isAsync : f'.isAsync = f.isAsync
  inputs : List.Forall₂ Input.StripsTo f.inputs f'.inputs
  output : f'.output = f.output

/-- The second member is the first one without the attributes that are read from it. Nothing is read
from a member that is no method. -/
inductive Member.StripsTo : Member → Member → Prop
  | method {f f' : Function} (h : f.StripsTo f') : StripsTo (method f) (method f')
  | other (attributes : List Attribute) : StripsTo (other attributes) (other attributes)

/-- The second trait is the first one without the attributes that are read. -/
structure Trait.StripsTo (t t' : Trait) : Prop where
  attributes : t'.attributes = t.attributes.filter fun a => ¬ a.IsReadBy Shared.annotate
  isPublic : t'.isPublic = t.isPublic
  name : t'.name = t.name
  bounds : t'.bounds = t.bounds
  members : List.Forall₂ Member.StripsTo t.members t'.members

theorem Input.stripsTo_stripped (input : Input) : input.StripsTo input.stripped := by
  cases input with
  | receiver attributes => exact .receiver attributes
  | typed attributes pattern type =>
      rw [stripped, withoutHelpers_eq_filter (Param.heeds.isReadBy_iff (.plain "" ""))]
      exact .typed attributes pattern type

theorem Function.stripsTo_stripped (f : Function) : f.StripsTo f.stripped where
  attributes := withoutHelpers_eq_filter (Method.heeds.isReadBy_iff (.bare "" false)) f.attributes
  name := rfl
  isAsync := rfl
  inputs := List.forall₂_map_right_iff.mpr
    (List.forall₂_same.mpr fun input _ => input.stripsTo_stripped)
  output := rfl

theorem Member.stripsTo_stripped (member : Member) : member.StripsTo member.stripped := by
  cases member with
  | method f => exact .method f.stripsTo_stripped
  | other attributes => exact .other attributes

theorem Trait.stripsTo_stripped (t : Trait) : t.StripsTo t.stripped where
  attributes := withoutHelpers_eq_filter (Shared.heeds.isReadBy_iff ⟨[], .unset⟩) t.attributes
  isPublic := rfl
  name := rfl
  bounds := rfl
  members := List.forall₂_map_right_iff.mpr
    (List.forall₂_same.mpr fun member _ => member.stripsTo_stripped)

end Rust

/-! ### Declarations without settings -/

/-- The parameter without its marks. -/
def Param.cleared (p : Param) : Param :=
  .plain p.name p.type

/-- The method without its settings and the marks of its parameters. -/
def Method.cleared (m : Method) : Method :=
  { bare m.name m.isAsync with params := m.params.map Param.cleared }

/-- The interface without any settings. -/
def Interface.cleared (i : Interface) : Interface :=
  { i with headers := [], timeouts := .unset, methods := i.methods.map Method.cleared }

/-- Attributes only add marks. -/
theorem Param.yields_annotate_cleared (p : Param) (a : Attribute) :
    Yields (p.annotate a) fun q => q.cleared = p.cleared := by
  unfold annotate
  split
  · exact (yields_any _).bind fun _ _ => yields_pure rfl
  · split
    · exact (yields_any _).bind fun _ _ => yields_pure rfl
    · split
      · exact (yields_any _).bind fun _ _ => yields_pure rfl
      · split
        · exact (yields_any _).bind fun _ _ => yields_pure rfl
        · exact yields_pure rfl

/-- Attributes only add settings. -/
theorem Method.yields_annotate_cleared (m : Method) (a : Attribute) :
    Yields (m.annotate a) fun n => n.cleared = m.cleared := by
  unfold annotate
  split
  case h_1 => exact yields_pure rfl
  case h_8 =>
    split
    · exact (yields_any _).bind fun _ _ => yields_pure rfl
    · exact yields_pure rfl
  all_goals exact (yields_any _).bind fun _ _ => yields_pure rfl

theorem Param.yields_ofInput_stripped (input : Input) :
    Yields (ofInput input) fun param => ofInput input.stripped = .ok (param.map cleared) := by
  cases input with
  | receiver attributes => exact yields_pure rfl
  | typed attributes pattern type =>
      cases pattern with
      | name ident =>
          have hmarks : Yields (attributes.foldlM annotate (plain ident type.shown)) fun p =>
              p.cleared = plain ident type.shown :=
            yields_foldlM (fun p hp a => (p.yields_annotate_cleared a).mono fun _ h => h.trans hp)
              attributes rfl
          refine hmarks.bind fun p hp => yields_pure ?_
          rw [Input.stripped, ofInput, heeds.foldlM_withoutHelpers, Option.map_some, hp]
          rfl
      | _ => exact yields_error _

theorem Param.yields_ofInputs_stripped (inputs : List Input) :
    Yields (ofInputs inputs) fun params =>
      ofInputs (inputs.map Input.stripped) = .ok (params.map cleared) := by
  induction inputs with
  | nil => exact yields_pure rfl
  | cons input rest ih =>
      refine (yields_ofInput_stripped input).bind fun param hparam => ?_
      refine ih.bind fun params hparams => yields_pure ?_
      rw [List.map_cons, ofInputs, hparam, hparams]
      cases param <;> rfl

theorem Method.yields_ofFunction_stripped (f : Function) :
    Yields (ofFunction f) fun m => ofFunction f.stripped = .ok m.cleared := by
  have hsettings : Yields (f.attributes.foldlM annotate (bare f.name f.isAsynchronous)) fun m =>
      m.cleared = bare f.name f.isAsynchronous :=
    yields_foldlM (fun m hm a => (m.yields_annotate_cleared a).mono fun _ h => h.trans hm)
      f.attributes rfl
  refine hsettings.bind fun m hm => ?_
  refine (Param.yields_ofInputs_stripped f.inputs).bind fun params hparams => yields_pure ?_
  -- Whether a method is asynchronous is not told by attributes.
  have hattributes : f.stripped.attributes.foldlM annotate
      (bare f.stripped.name f.stripped.isAsynchronous) = .ok (bare f.name f.isAsynchronous) :=
    heeds.foldlM_withoutHelpers _ f.attributes
  have hinputs : Param.ofInputs f.stripped.inputs = .ok (params.map Param.cleared) := hparams
  rw [ofFunction, hattributes, hinputs, ← hm]
  rfl

theorem Method.yields_ofMembers_stripped (members : List Member) :
    Yields (ofMembers members) fun methods =>
      ofMembers (members.map Member.stripped) = .ok (methods.map cleared) := by
  induction members with
  | nil => exact yields_pure rfl
  | cons member rest ih =>
      cases member with
      | other attributes => exact ih
      | method f =>
          refine (yields_ofFunction_stripped f).bind fun m hm => ?_
          refine ih.bind fun methods hmethods => yields_pure ?_
          rw [List.map_cons, Member.stripped, ofMembers, hm, hmethods]
          rfl

/-- The name of an attribute that is no helper is found as before. -/
theorem any_hasName_withoutHelpers {helpers : List String} {name : String} (h : name ∉ helpers)
    (attributes : List Attribute) :
    ((withoutHelpers helpers attributes).any fun a => a.hasName name) =
      attributes.any fun a => a.hasName name := by
  rw [withoutHelpers, List.any_filter]
  congr 1
  funext a
  by_cases ha : a.hasName name = true
  · have hno : helpers.any a.hasName = false := by
      rw [List.any_eq_false]
      intro helper hhelper hhas
      have heq :=
        (Attribute.name?_eq_some_iff.mpr ha).symm.trans (Attribute.name?_eq_some_iff.mpr hhas)
      cases heq
      exact h hhelper
    simp [hno]
  · simp [ha]

theorem Interface.yields_ofTrait_stripped (t : Trait) :
    Yields (ofTrait t) fun i => ofTrait t.stripped = .ok i.cleared := by
  refine (yields_any _).bind fun settings _ => ?_
  refine (Method.yields_ofMembers_stripped t.members).bind fun methods hmethods => yields_pure ?_
  have hsettings : t.stripped.attributes.foldlM Shared.annotate ⟨[], .unset⟩ = .ok ⟨[], .unset⟩ :=
    Shared.heeds.foldlM_withoutHelpers _ t.attributes
  have hmembers : Method.ofMembers t.stripped.members = .ok (methods.map Method.cleared) := hmethods
  have hclient : (t.stripped.attributes.any fun a => a.hasName "client") =
      t.attributes.any fun a => a.hasName "client" :=
    any_hasName_withoutHelpers (by decide) t.attributes
  rw [ofTrait, hsettings, hclient, hmembers]
  rfl

/-- What is expanded is the stripped trait. -/
theorem yields_expand_stripped (arguments : List Tree) (t : Trait) :
    Yields (expand arguments t) fun x => x.stripped = t.stripped := by
  unfold expand
  split
  · exact yields_error _
  · refine (yields_any _).bind fun i _ => ?_
    exact (yields_any _).bind fun endpoints _ => yields_pure rfl

/-- **Stripping.** The stripped trait has lost exactly the attributes that are read from it, and
nothing else. If a trait can be read, so can the stripped one, and its declaration is that of the
trait without all settings. This is the trait that is expanded. -/
theorem Interface.ofTrait_stripped {t : Trait} {i : Interface} (h : ofTrait t = .ok i) :
    ofTrait t.stripped = .ok i.cleared ∧ t.StripsTo t.stripped ∧
      ∀ arguments x, expand arguments t = .ok x → x.stripped = t.stripped :=
  ⟨yields_ofTrait_stripped t i h, t.stripsTo_stripped,
    fun arguments => yields_expand_stripped arguments t⟩

/-- A trait with helper attributes, with others, and with names that are helpers elsewhere. -/
def mixedTrait : Trait where
  attributes :=
    [⟨false, ["client"], .nothing⟩,
      ⟨false, ["headers"], .tokens [.literal ⟨"\"Accept: a\"", .string "Accept: a"⟩]⟩,
      ⟨false, ["query"], .nothing⟩, ⟨true, ["timeout"], .nothing⟩]
  isPublic := true
  name := "Mixed"
  bounds := [.named "Base"]
  members :=
    [.other [⟨false, ["header"], .value⟩],
      .method
        { attributes :=
            [⟨false, ["doc"], .value⟩,
              ⟨false, ["get"], .tokens [.literal ⟨"\"/items/:id\"", .string "/items/:id"⟩]⟩,
              ⟨false, ["web", "query"], .nothing⟩]
          name := "find"
          isAsync := true
          inputs :=
            [.receiver [⟨false, ["body"], .nothing⟩],
              .typed
                [⟨false, ["get"], .nothing⟩,
                  ⟨false, ["param"], .tokens [.literal ⟨"\"id\"", .string "id"⟩]⟩]
                (.name "item") ⟨.other, [.ident "u64"]⟩]
          output := none }]

/-- The trait without helper attributes. -/
def bareTrait : Trait :=
  { mixedTrait with
    attributes :=
      [⟨false, ["client"], .nothing⟩, ⟨false, ["query"], .nothing⟩, ⟨true, ["timeout"], .nothing⟩]
    members :=
      [.other [⟨false, ["header"], .value⟩],
        .method
          { attributes := [⟨false, ["doc"], .value⟩, ⟨false, ["web", "query"], .nothing⟩]
            name := "find"
            isAsync := true
            inputs :=
              [.receiver [⟨false, ["body"], .nothing⟩],
                .typed [⟨false, ["get"], .nothing⟩] (.name "item") ⟨.other, [.ident "u64"]⟩]
            output := none }] }

theorem Interface.ofTrait_stripped_mixedTrait :
    ofTrait mixedTrait = .ok ⟨"Mixed", true, [⟨"Accept", "a"⟩], .unset, ["Base"],
      [⟨"find", true, [⟨"item", "u64", some "id", none, none, none⟩],
        [⟨.get, "/items/:id", true⟩], [], [], .unset⟩]⟩ ∧
    ofTrait bareTrait = .ok ⟨"Mixed", true, [], .unset, ["Base"],
      [⟨"find", true, [.plain "item" "u64"], [], [], [], .unset⟩]⟩ ∧
    mixedTrait.StripsTo bareTrait ∧ ∃ x, expand [] mixedTrait = .ok x ∧ x.stripped = bareTrait := by
  have hread : ofTrait mixedTrait = .ok ⟨"Mixed", true, [⟨"Accept", "a"⟩], .unset, ["Base"],
      [⟨"find", true, [⟨"item", "u64", some "id", none, none, none⟩],
        [⟨.get, "/items/:id", true⟩], [], [], .unset⟩]⟩ := by decide +kernel
  have hstripped : mixedTrait.stripped = bareTrait := by rfl
  obtain ⟨hcleared, hstrips, hexpand⟩ := ofTrait_stripped hread
  rw [hstripped] at hcleared hstrips hexpand
  have hsome : (expand [] mixedTrait).toOption.isSome = true := by decide +kernel
  refine ⟨hread, hcleared, hstrips, ?_⟩
  cases hx : expand [] mixedTrait with
  | error e => rw [hx] at hsome; cases hsome
  | ok x => exact ⟨x, rfl, hexpand [] x hx⟩

end ClientTraits
