import Mathlib.Data.List.Nodup
import Mathlib.Data.List.Perm.Basic
import ClientTraits.Proofs.Json.Text
import ClientTraits.Wire.Field

/-!
# Fields in any order

A decoder looks fields up by name, so that it does not matter in which order they stand as long as
the names of an object are distinct. `Rearranges g` says that `g` does no more than change the
order; two such changes are none at all and `Value.sorted`.

The rules for the kinds of fields take what one field decodes to and give what the decoder of the
field yields on the rearranged record.
-/

namespace ClientTraits.Json

namespace Value

/-- The names of fields. -/
def fieldNames (fields : List (String × Value)) : List String :=
  fields.map Prod.fst

@[simp] theorem fieldNames_nil : fieldNames [] = [] := rfl

@[simp] theorem fieldNames_cons (f : String × Value) (rest : List (String × Value)) :
    fieldNames (f :: rest) = f.1 :: fieldNames rest := rfl

@[simp] theorem fieldNames_append (fields more : List (String × Value)) :
    fieldNames (fields ++ more) = fieldNames fields ++ fieldNames more :=
  List.map_append

/-- Under distinct names, a field has the value it stands with. -/
theorem field?_eq_some_iff {fields : List (String × Value)} (h : (fieldNames fields).Nodup)
    {name : String} {v : Value} :
    (object fields).field? name = some v ↔ (name, v) ∈ fields := by
  rw [field?, Option.map_eq_some_iff]
  constructor
  · intro hfound
    obtain ⟨f, hf, rfl⟩ := hfound
    have hname : f.1 = name := by simpa using List.find?_some hf
    rw [← hname]
    exact List.mem_of_find?_eq_some hf
  · intro hmem
    cases hf : fields.find? fun f => f.1 == name with
    | none => exact absurd (List.find?_eq_none.mp hf _ hmem) (by simp)
    | some f =>
        have hname : f.1 = name := by simpa using List.find?_some hf
        have heq := List.inj_on_of_nodup_map h (List.mem_of_find?_eq_some hf) hmem hname
        exact ⟨f, rfl, by rw [heq]⟩

theorem field?_eq_none {fields : List (String × Value)} {name : String}
    (h : name ∉ fieldNames fields) : (object fields).field? name = none := by
  rw [field?, Option.map_eq_none_iff, List.find?_eq_none]
  intro f hf hname
  rw [beq_iff_eq] at hname
  exact h (hname ▸ List.mem_map_of_mem hf)

@[simp]
theorem mem_optionalField {α : Type} {name : String} {encode : α → Value} {a? : Option α}
    {f : String × Value} :
    f ∈ Wire.optionalField name encode a? ↔ ∃ a ∈ a?, (name, encode a) = f := by
  cases a? <;> simp [Wire.optionalField, eq_comm]

@[simp]
theorem mem_fieldNames_optionalField {α : Type} {name field : String} {encode : α → Value}
    {a? : Option α} :
    name ∈ fieldNames (Wire.optionalField field encode a?) ↔ name = field ∧ a?.isSome := by
  cases a? <;> simp [Wire.optionalField]

theorem fieldNames_optionalField_sublist {α : Type} (name : String) (encode : α → Value)
    (a? : Option α) : (fieldNames (Wire.optionalField name encode a?)).Sublist [name] := by
  cases a? with
  | none => exact List.nil_sublist _
  | some a => exact List.Sublist.refl _

theorem setField_of_notMem {fields : List (String × Value)} {name : String}
    (h : name ∉ fieldNames fields) (v : Value) :
    (object fields).setField name v = object (fields ++ [(name, v)]) := by
  rw [setField, if_neg]
  rw [List.any_eq_true]
  intro hany
  obtain ⟨f, hf, hname⟩ := hany
  rw [beq_iff_eq] at hname
  exact h (hname ▸ List.mem_map_of_mem hf)

end Value

/-! ### Rearranging -/

/-- The function changes nothing but the order of fields. -/
structure Rearranges (g : Value → Value) : Prop where
  bool : ∀ b, g (.bool b) = .bool b
  integer : ∀ n, g (.integer n) = .integer n
  string : ∀ s, g (.string s) = .string s
  array : ∀ items, g (.array items) = .array (items.map g)
  object : ∀ fields, ∃ fields', g (.object fields) = .object fields' ∧
    ((Value.fieldNames fields).Nodup → ∀ name,
      (Value.object fields').field? name = ((Value.object fields).field? name).map g)

theorem rearranges_id : Rearranges id where
  bool _ := rfl
  integer _ := rfl
  string _ := rfl
  array items := by rw [List.map_id]; rfl
  object fields := ⟨fields, rfl, fun _ name => Option.map_id_apply.symm⟩

namespace Value

theorem sortedItems_eq_map (items : List Value) : sortedItems items = items.map sorted := by
  induction items with
  | nil => rfl
  | cons v rest ih => rw [sortedItems, ih, List.map_cons]

theorem sortedFields_eq_map (fields : List (String × Value)) :
    sortedFields fields = fields.map fun f => (f.1, f.2.sorted) := by
  induction fields with
  | nil => rfl
  | cons f rest ih => rw [sortedFields, ih, List.map_cons]

theorem rearranges_sorted : Rearranges sorted where
  bool _ := by simp [sorted]
  integer _ := by simp [sorted]
  string _ := by simp [sorted]
  array items := by rw [sorted, sortedItems_eq_map]
  object fields := by
    have hperm := List.mergeSort_perm (sortedFields fields) fun a b => decide (a.1 ≤ b.1)
    have hnames : fieldNames (sortedFields fields) = fieldNames fields := by
      rw [sortedFields_eq_map, fieldNames, List.map_map]
      rfl
    refine ⟨_, by rw [sorted], fun hnodup name => Option.ext fun v => ?_⟩
    have hnodup' : (fieldNames (sortedFields fields)).Nodup := hnames ▸ hnodup
    calc (object _).field? name = some v
      _ ↔ (name, v) ∈ sortedFields fields :=
          (field?_eq_some_iff ((hperm.map Prod.fst).nodup_iff.mpr hnodup')).trans hperm.mem_iff
      _ ↔ ∃ w, (name, w) ∈ fields ∧ w.sorted = v := by
          simp only [sortedFields_eq_map, List.mem_map, Prod.mk.injEq, Prod.exists]
          constructor
          · intro h
            obtain ⟨_, w, hw, rfl, hv⟩ := h
            exact ⟨w, hw, hv⟩
          · intro h
            obtain ⟨w, hw, hv⟩ := h
            exact ⟨name, w, hw, rfl, hv⟩
      _ ↔ ((object fields).field? name).map sorted = some v := by
          simp only [Option.map_eq_some_iff, field?_eq_some_iff hnodup]

/-- Sorting brings in no fractions. -/
theorem IsExact.sorted {v : Value} (h : v.IsExact) : v.sorted.IsExact := by
  induction h with
  | null => simp [Value.sorted, IsExact.null]
  | bool b => simp [Value.sorted]
  | integer n => simp [Value.sorted]
  | string s => simp [Value.sorted]
  | array h ih =>
      rw [Value.sorted, sortedItems_eq_map]
      exact .array (List.forall_mem_map.mpr ih)
  | object h ih =>
      rw [Value.sorted, sortedFields_eq_map]
      refine .object fun f hf => ?_
      obtain ⟨f', hf', rfl⟩ := List.mem_map.mp (List.mem_mergeSort.mp hf)
      exact ih f' hf'

end Value

/-! ### Rules for fields -/

namespace Rearranges

variable {g : Value → Value} (hg : Rearranges g) {α : Type} {decode : Value → Option α}
  {fields : List (String × Value)} (hnodup : (Value.fieldNames fields).Nodup) {name : String}
  {v : Value} {a : α}
include hg hnodup

theorem required (hmem : (name, v) ∈ fields) (h : decode (g v) = some a) :
    Wire.required decode name (g (.object fields)) = some a := by
  obtain ⟨fields', hfields', hfield⟩ := hg.object fields
  rw [hfields', Wire.required, hfield hnodup, (Value.field?_eq_some_iff hnodup).mpr hmem]
  exact h

theorem defaulted {default : α} (hmem : (name, v) ∈ fields) (h : decode (g v) = some a) :
    Wire.defaulted decode default name (g (.object fields)) = some a := by
  obtain ⟨fields', hfields', hfield⟩ := hg.object fields
  rw [hfields', Wire.defaulted, hfield hnodup, (Value.field?_eq_some_iff hnodup).mpr hmem]
  exact h

theorem optional_some (hmem : (name, v) ∈ fields) (hnull : g v ≠ .null)
    (h : decode (g v) = some a) :
    Wire.optional decode name (g (.object fields)) = some (some a) := by
  obtain ⟨fields', hfields', hfield⟩ := hg.object fields
  rw [hfields', Wire.optional, hfield hnodup, (Value.field?_eq_some_iff hnodup).mpr hmem,
    Option.map_some]
  split
  · next heq => cases heq
  · next heq => exact absurd (Option.some.inj heq) hnull
  · next heq =>
      cases heq
      rw [h, Option.map_some]

theorem optional_none (habsent : name ∉ Value.fieldNames fields) :
    Wire.optional decode name (g (.object fields)) = some none := by
  obtain ⟨fields', hfields', hfield⟩ := hg.object fields
  rw [hfields', Wire.optional, hfield hnodup, Value.field?_eq_none habsent]
  rfl

/-- A field that is written when it is set. -/
theorem optional (encode : α → Value) (a? : Option α)
    (hmem : ∀ v, (name, v) ∈ fields ↔ ∃ a ∈ a?, encode a = v) (hnull : ∀ a, g (encode a) ≠ .null)
    (h : ∀ a ∈ a?, decode (g (encode a)) = some a) :
    Wire.optional decode name (g (.object fields)) = some a? := by
  cases a? with
  | none =>
      refine hg.optional_none hnodup fun hname => ?_
      obtain ⟨⟨_, v⟩, hv, rfl⟩ := List.mem_map.mp hname
      simp [hmem] at hv
  | some a => exact hg.optional_some hnodup ((hmem _).mpr ⟨a, rfl, rfl⟩) (hnull a) (h a rfl)

end Rearranges

section Objects

variable {g : Value → Value} (hg : Rearranges g) (fields : List (String × Value))
include hg

theorem Rearranges.object_ne_null : g (.object fields) ≠ .null := by
  obtain ⟨fields', hfields', -⟩ := hg.object fields
  rw [hfields']
  exact Value.noConfusion

theorem Rearranges.expectObject : Wire.expectObject (g (.object fields)) = some () := by
  obtain ⟨fields', hfields', -⟩ := hg.object fields
  rw [hfields']
  rfl

end Objects

section ListOf

variable {g : Value → Value} (hg : Rearranges g) {α β : Type} {encode : α → Value} {items : List α}
include hg

theorem Rearranges.listOf_map {decode : Value → Option β} {f : α → β}
    (h : ∀ a ∈ items, decode (g (encode a)) = some (f a)) :
    Wire.listOf decode (g (Wire.list encode items)) = some (items.map f) := by
  rw [Wire.list, hg.array, Wire.listOf, List.map_map]
  induction items with
  | nil => rfl
  | cons a rest ih =>
      rw [List.map_cons, List.mapM_cons, Function.comp_apply, h a List.mem_cons_self,
        ih fun b hb => h b (List.mem_cons_of_mem a hb)]
      rfl

theorem Rearranges.listOf {decode : Value → Option α}
    (h : ∀ a ∈ items, decode (g (encode a)) = some a) :
    Wire.listOf decode (g (Wire.list encode items)) = some items := by
  have hmap := hg.listOf_map (f := id) h
  rwa [List.map_id] at hmap

end ListOf

end ClientTraits.Json
