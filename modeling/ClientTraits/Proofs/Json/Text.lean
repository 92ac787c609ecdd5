import ClientTraits.Proofs.Json.Atoms

/-!
# JSON texts of a value

`Value.Spells v cs` is a grammar of JSON for values without fractions. It leaves the layout open:
any blanks may stand around the items of an array and the values of fields.

* Both printed forms follow the grammar (`spells_compactChars`, `spells_prettyChars`).
* The reader accepts each text of the grammar and yields the value that it spells (`Spells.read?`).
  Its bound on the depth is met (`ReadsAt`): two calls lead from a value to one inside of it, and
  the text of the outer one is longer by a bracket at least.

So both printed forms are read back (`read?_compact`, `read?_pretty`).
-/

namespace ClientTraits.Json

/-! ### The grammar -/

/-- Nothing but blanks. -/
def IsGap (cs : List Char) : Prop :=
  ∀ c ∈ cs, isSpace c = true

namespace Value

mutual

/-- The characters are a text of the value. -/
inductive Spells : Value → List Char → Prop
  | null : Spells .null ['n', 'u', 'l', 'l']
  | boolTrue : Spells (.bool true) ['t', 'r', 'u', 'e']
  | boolFalse : Spells (.bool false) ['f', 'a', 'l', 's', 'e']
  | integer (n : Int) : Spells (.integer n) (integerChars n)
  | string (s : String) : Spells (.string s) (quoted s)
  | emptyArray {gap : List Char} (hgap : IsGap gap) : Spells (.array []) ('[' :: (gap ++ [']']))
  | array {gap cs : List Char} {items : List Value} (hgap : IsGap gap)
      (hitems : SpellsItems items cs) : Spells (.array items) ('[' :: (gap ++ cs))
  | emptyObject {gap : List Char} (hgap : IsGap gap) :
      Spells (.object []) ('\x7b' :: (gap ++ ['\x7d']))
  | object {gap cs : List Char} {fields : List (String × Value)} (hgap : IsGap gap)
      (hfields : SpellsFields fields cs) : Spells (.object fields) ('\x7b' :: (gap ++ cs))

/-- The characters are a text of the items of an array, up to its closing bracket. -/
inductive SpellsItems : List Value → List Char → Prop
  | last {v : Value} {cs gap : List Char} (hv : Spells v cs) (hgap : IsGap gap) :
      SpellsItems [v] (cs ++ (gap ++ [']']))
  | cons {v : Value} {cs before behind rest : List Char} {items : List Value} (hv : Spells v cs)
      (hbefore : IsGap before) (hbehind : IsGap behind) (hitems : SpellsItems items rest) :
      SpellsItems (v :: items) (cs ++ (before ++ ',' :: (behind ++ rest)))

/-- The characters are a text of the fields of an object, up to its closing brace. -/
inductive SpellsFields : List (String × Value) → List Char → Prop
  | last (name : String) {v : Value} {space cs gap : List Char} (hspace : IsGap space)
      (hv : Spells v cs) (hgap : IsGap gap) :
      SpellsFields [(name, v)] (quoted name ++ ':' :: (space ++ (cs ++ (gap ++ ['\x7d']))))
  | cons (name : String) {v : Value} {space cs before behind rest : List Char}
      {fields : List (String × Value)} (hspace : IsGap space) (hv : Spells v cs)
      (hbefore : IsGap before) (hbehind : IsGap behind) (hfields : SpellsFields fields rest) :
      SpellsFields ((name, v) :: fields)
        (quoted name ++ ':' :: (space ++ (cs ++ (before ++ ',' :: (behind ++ rest)))))

end

end Value

/-! ### Gaps and what ends a number -/

theorem isGap_nil : IsGap [] :=
  fun _ h => absurd h List.not_mem_nil

/-- A gap in front of a character that is no blank is skipped. -/
theorem IsGap.skipSpace_cons {gap : List Char} (h : IsGap gap) {c : Char} (hc : isSpace c = false)
    (rest : List Char) : skipSpace (gap ++ c :: rest) = c :: rest := by
  rw [skipSpace, List.dropWhile_append_of_pos h, List.dropWhile_cons_of_neg (by simp [hc])]

theorem endsNumber_cons {c : Char} (h : c.isDigit = false ∧ c ≠ '.' ∧ c ≠ 'e' ∧ c ≠ 'E')
    (rest : List Char) : EndsNumber (c :: rest) := by
  intro d hd
  cases hd
  exact h

/-- A blank is no character of a number. -/
theorem not_number_of_isSpace {c : Char} (h : isSpace c = true) :
    (c.isDigit = false ∧ c ≠ '-') ∧ c ≠ '.' ∧ c ≠ 'e' ∧ c ≠ 'E' := by
  simp only [isSpace, Bool.or_eq_true, beq_iff_eq] at h
  rcases h with ((rfl | rfl) | rfl) | rfl <;> decide

/-- A gap ends a number, unless it has no length. -/
theorem IsGap.endsNumber {gap rest : List Char} (h : IsGap gap) (hrest : EndsNumber rest) :
    EndsNumber (gap ++ rest) := by
  cases gap with
  | nil => exact hrest
  | cons c gap =>
      obtain ⟨⟨hdigit, -⟩, hmarks⟩ := not_number_of_isSpace (h c List.mem_cons_self)
      exact endsNumber_cons ⟨hdigit, hmarks⟩ _

/-! ### How texts begin -/

/-- An integer begins with a digit or a sign. -/
theorem integerChars_head (n : Int) :
    ∃ c body, integerChars n = c :: body ∧ (c.isDigit = true ∨ c = '-') := by
  cases n with
  | negSucc n => exact ⟨_, _, rfl, Or.inr rfl⟩
  | ofNat n =>
      cases h : Nat.toDigits 10 n with
      | nil => exact absurd h Nat.toDigits_ne_nil
      | cons c body =>
          refine ⟨c, body, h, Or.inl ?_⟩
          exact Nat.isDigit_of_mem_toDigits (by omega) (by omega) (h ▸ List.mem_cons_self)

/-- The text begins with a character that is neither a blank nor a closing bracket. -/
def BeginsToken (cs : List Char) : Prop :=
  ∃ c body, cs = c :: body ∧ isSpace c = false ∧ c ≠ ']'

theorem beginsToken_cons {c : Char} (h : isSpace c = false ∧ c ≠ ']') (body : List Char) :
    BeginsToken (c :: body) :=
  ⟨c, body, rfl, h⟩

theorem BeginsToken.append {cs : List Char} (h : BeginsToken cs) (rest : List Char) :
    BeginsToken (cs ++ rest) := by
  obtain ⟨c, body, rfl, hc⟩ := h
  exact beginsToken_cons hc _

theorem BeginsToken.length_pos {cs : List Char} (h : BeginsToken cs) : 0 < cs.length := by
  obtain ⟨c, body, rfl, -⟩ := h
  exact Nat.succ_pos _

theorem IsGap.skipSpace {gap cs : List Char} (h : IsGap gap) (hcs : BeginsToken cs) :
    skipSpace (gap ++ cs) = cs := by
  obtain ⟨c, body, rfl, hc, -⟩ := hcs
  exact h.skipSpace_cons hc body

namespace Value

theorem Spells.beginsToken {v : Value} {cs : List Char} (h : Spells v cs) : BeginsToken cs := by
  cases h with
  | null => exact beginsToken_cons (by decide) _
  | boolTrue => exact beginsToken_cons (by decide) _
  | boolFalse => exact beginsToken_cons (by decide) _
  | integer n =>
      obtain ⟨c, body, hcs, hc⟩ := integerChars_head n
      rw [hcs]
      refine beginsToken_cons ⟨?_, ?_⟩ body
      · rw [← Bool.not_eq_true]
        intro hspace
        obtain ⟨⟨hdigit, hminus⟩, -⟩ := not_number_of_isSpace hspace
        simp [hdigit, hminus] at hc
      · rintro rfl
        simp at hc
  | string s => exact beginsToken_cons (by decide) _
  | emptyArray hgap => exact beginsToken_cons (by decide) _
  | array hgap hitems => exact beginsToken_cons (by decide) _
  | emptyObject hgap => exact beginsToken_cons (by decide) _
  | object hgap hfields => exact beginsToken_cons (by decide) _

theorem SpellsItems.beginsToken {items : List Value} {cs : List Char} (h : SpellsItems items cs) :
    BeginsToken cs := by
  cases h with
  | last hv hgap => exact hv.beginsToken.append _
  | cons hv hbefore hbehind hitems => exact hv.beginsToken.append _

theorem SpellsFields.head {fields : List (String × Value)} {cs : List Char}
    (h : SpellsFields fields cs) : ∃ body, cs = '"' :: body := by
  cases h with
  | last name hspace hv hgap => exact ⟨_, rfl⟩
  | cons name hspace hv hbefore hbehind hfields => exact ⟨_, rfl⟩

theorem SpellsFields.beginsToken {fields : List (String × Value)} {cs : List Char}
    (h : SpellsFields fields cs) : BeginsToken cs := by
  obtain ⟨body, rfl⟩ := h.head
  exact beginsToken_cons (by decide) body

end Value

/-! ### Rules of the reader -/

section Rules

variable {depth : Nat} {cs behind more rest : List Char} {name : String} {v : Value}
  {items : List Value} {fields : List (String × Value)}

theorem readValue_integerChars (n : Int) (h : EndsNumber rest) :
    readValue (depth + 1) (integerChars n ++ rest) = some (.integer n, rest) := by
  have hread := readNumber_integerChars h n
  obtain ⟨c, cs, hcs, hc⟩ := integerChars_head n
  rw [hcs, List.cons_append] at hread ⊢
  rw [readValue]
  · exact hread
  -- The text begins as no other value does.
  all_goals
    intro more hmore
    obtain rfl := (List.cons.inj hmore).1
    simp at hc

theorem readValue_quoted (s : String) (rest : List Char) :
    readValue (depth + 1) (quoted s ++ rest) = some (.string s, rest) := by
  obtain ⟨body, hbody, hread⟩ := readString_quoted s rest
  simp [hbody, readValue, hread]

theorem readValue_emptyArray (h : skipSpace cs = ']' :: rest) :
    readValue (depth + 1) ('[' :: cs) = some (.array [], rest) := by
  simp [readValue, h]

theorem readValue_array (h : BeginsToken (skipSpace cs))
    (hitems : readItems depth (skipSpace cs) = some (items, rest)) :
    readValue (depth + 1) ('[' :: cs) = some (.array items, rest) := by
  obtain ⟨c, body, hcs, -, hclose⟩ := h
  rw [hcs] at hitems
  rw [readValue, hcs]
  simp [hclose, hitems]
  
theorem readValue_emptyObject (h : skipSpace cs = '\x7d' :: rest) :
    readValue (depth + 1) ('\x7b' :: cs) = some (.object [], rest) := by
  simp [readValue, h]

theorem readValue_object (h : skipSpace cs = '"' :: behind)
    (hfields : readFields depth ('"' :: behind) = some (fields, rest)) :
    readValue (depth + 1) ('\x7b' :: cs) = some (.object fields, rest) := by
  simp [readValue, h, hfields]

theorem readItems_last (hv : readValue depth cs = some (v, behind))
    (hclose : skipSpace behind = ']' :: rest) : readItems (depth + 1) cs = some ([v], rest) := by
  simp [readItems, hv, hclose]

theorem readItems_cons (hv : readValue depth cs = some (v, behind))
    (hcomma : skipSpace behind = ',' :: more)
    (hitems : readItems depth (skipSpace more) = some (items, rest)) :
    readItems (depth + 1) cs = some (v :: items, rest) := by
  simp [readItems, hv, hcomma, hitems]

theorem readFields_last (hv : readValue depth (skipSpace cs) = some (v, behind))
    (hclose : skipSpace behind = '\x7d' :: rest) :
    readFields (depth + 1) (quoted name ++ ':' :: cs) = some ([(name, v)], rest) := by
  obtain ⟨body, hbody, hread⟩ := readString_quoted name (':' :: cs)
  have hcolon : skipSpace (':' :: cs) = ':' :: cs := isGap_nil.skipSpace_cons rfl cs
  simp [readFields, hbody, hread, hcolon, hv, hclose]

theorem readFields_cons (hv : readValue depth (skipSpace cs) = some (v, behind))
    (hcomma : skipSpace behind = ',' :: more)
    (hfields : readFields depth (skipSpace more) = some (fields, rest)) :
    readFields (depth + 1) (quoted name ++ ':' :: cs) = some ((name, v) :: fields, rest) := by
  obtain ⟨body, hbody, hread⟩ := readString_quoted name (':' :: cs)
  have hcolon : skipSpace (':' :: cs) = ':' :: cs := isGap_nil.skipSpace_cons rfl cs
  simp [readFields, hbody, hread, hcolon, hv, hcomma, hfields]

end Rules

/-! ### The reader on texts of the grammar -/

namespace Value

/-- At this depth, the reader reads what is spelled with at most half as many characters. -/
structure ReadsAt (depth : Nat) : Prop where
  value : ∀ {v cs rest}, Spells v cs → 2 * cs.length ≤ depth → EndsNumber rest →
    readValue depth (cs ++ rest) = some (v, rest)
  items : ∀ {items cs rest}, SpellsItems items cs → 2 * cs.length ≤ depth →
    readItems depth (cs ++ rest) = some (items, rest)
  fields : ∀ {fields cs rest}, SpellsFields fields cs → 2 * cs.length ≤ depth →
    readFields depth (cs ++ rest) = some (fields, rest)

/-- No text is empty. -/
theorem readsAt_zero : ReadsAt 0 where
  value hv hlength _ := by
    have := hv.beginsToken.length_pos
    omega
  items hitems hlength := by
    have := hitems.beginsToken.length_pos
    omega
  fields hfields hlength := by
    have := hfields.beginsToken.length_pos
    omega

namespace ReadsAt

variable {depth : Nat} (h : ReadsAt depth) {cs rest : List Char}
include h

theorem value_succ {v : Value} (hv : Spells v cs) (hlength : 2 * cs.length ≤ depth + 1)
    (hrest : EndsNumber rest) : readValue (depth + 1) (cs ++ rest) = some (v, rest) := by
  cases hv with
  | null => rfl
  | boolTrue => rfl
  | boolFalse => rfl
  | integer n => exact readValue_integerChars n hrest
  | string s => exact readValue_quoted s rest
  | emptyArray hgap =>
      rw [List.cons_append, List.append_assoc]
      exact readValue_emptyArray (hgap.skipSpace_cons rfl rest)
  | @array gap cs items hgap hitems =>
      have hskip := hgap.skipSpace (hitems.beginsToken.append rest)
      rw [List.cons_append, List.append_assoc]
      refine readValue_array ?_ ?_
      · rw [hskip]
        exact hitems.beginsToken.append rest
      · rw [hskip]
        refine h.items hitems ?_
        rw [List.length_cons, List.length_append] at hlength
        omega
  | emptyObject hgap =>
      rw [List.cons_append, List.append_assoc]
      exact readValue_emptyObject (hgap.skipSpace_cons rfl rest)
  | @object gap cs fields hgap hfields =>
      have hskip := hgap.skipSpace (hfields.beginsToken.append rest)
      have hread : readFields depth (cs ++ rest) = some (fields, rest) := by
        rw [List.length_cons, List.length_append] at hlength
        exact h.fields hfields (by omega)
      obtain ⟨body, hbody⟩ := hfields.head
      rw [List.cons_append, List.append_assoc]
      rw [hbody] at hskip hread ⊢
      exact readValue_object hskip hread

theorem items_succ {items : List Value} (hitems : SpellsItems items cs)
    (hlength : 2 * cs.length ≤ depth + 1) :
    readItems (depth + 1) (cs ++ rest) = some (items, rest) := by
  cases hitems with
  | @last v cs gap hv hgap =>
      simp only [List.length_append, List.length_singleton] at hlength
      have hclose : EndsNumber (']' :: rest) := endsNumber_cons (by decide) rest
      have hread := h.value hv (by omega) (hgap.endsNumber hclose)
      simp only [List.append_assoc, List.singleton_append]
      exact readItems_last hread (hgap.skipSpace_cons rfl rest)
  | @cons v cs before behind more items hv hbefore hbehind hitems =>
      simp only [List.length_append, List.length_cons] at hlength
      have hcomma : EndsNumber (',' :: (behind ++ (more ++ rest))) :=
        endsNumber_cons (by decide) _
      have hread := h.value hv (by omega) (hbefore.endsNumber hcomma)
      simp only [List.append_assoc, List.cons_append]
      refine readItems_cons hread (hbefore.skipSpace_cons rfl _) ?_
      rw [hbehind.skipSpace (hitems.beginsToken.append rest)]
      exact h.items hitems (by omega)

theorem fields_succ {fields : List (String × Value)} (hfields : SpellsFields fields cs)
    (hlength : 2 * cs.length ≤ depth + 1) :
    readFields (depth + 1) (cs ++ rest) = some (fields, rest) := by
  cases hfields with
  | @last name v space cs gap hspace hv hgap =>
      simp only [List.length_append, List.length_cons, List.length_nil] at hlength
      have hclose : EndsNumber ('\x7d' :: rest) := endsNumber_cons (by decide) rest
      have hread := h.value hv (by omega) (hgap.endsNumber hclose)
      rw [← hspace.skipSpace (hv.beginsToken.append _)] at hread
      simp only [List.append_assoc, List.cons_append, List.nil_append]
      exact readFields_last hread (hgap.skipSpace_cons rfl rest)
  | @cons name v space cs before behind more fields hspace hv hbefore hbehind hfields =>
      simp only [List.length_append, List.length_cons] at hlength
      have hcomma : EndsNumber (',' :: (behind ++ (more ++ rest))) :=
        endsNumber_cons (by decide) _
      have hread := h.value hv (by omega) (hbefore.endsNumber hcomma)
      rw [← hspace.skipSpace (hv.beginsToken.append _)] at hread
      simp only [List.append_assoc, List.cons_append]
      refine readFields_cons hread (hbefore.skipSpace_cons rfl _) ?_
      rw [hbehind.skipSpace (hfields.beginsToken.append rest)]
      exact h.fields hfields (by omega)

theorem succ : ReadsAt (depth + 1) :=
  ⟨h.value_succ, h.items_succ, h.fields_succ⟩

end ReadsAt

theorem readsAt (depth : Nat) : ReadsAt depth := by
  induction depth with
  | zero => exact readsAt_zero
  | succ depth ih => exact ih.succ

/-- **Reading.** A text of a value is read as the value. -/
theorem Spells.read? {v : Value} {cs : List Char} (h : Spells v cs) :
    Value.read? (String.ofList cs) = some v := by
  have hskip : skipSpace cs = cs := isGap_nil.skipSpace h.beginsToken
  have hread : readValue (2 * cs.length + 2) (cs ++ []) = some (v, []) :=
    (readsAt _).value h (by omega) fun _ h => nomatch h
  rw [List.append_nil] at hread
  rw [Value.read?, String.toList_ofList, hskip]
  dsimp only
  rw [hread]
  rfl

/-! ### The printed forms -/

/-- The value has no numbers but integers. -/
inductive IsExact : Value → Prop
  | null : IsExact .null
  | bool (b : Bool) : IsExact (.bool b)
  | integer (n : Int) : IsExact (.integer n)
  | string (s : String) : IsExact (.string s)
  | array {items : List Value} (h : ∀ v ∈ items, IsExact v) : IsExact (.array items)
  | object {fields : List (String × Value)} (h : ∀ f ∈ fields, IsExact f.2) :
      IsExact (.object fields)

attribute [simp] IsExact.bool IsExact.integer IsExact.string

@[simp] theorem isExact_array_iff {items : List Value} :
    IsExact (.array items) ↔ ∀ v ∈ items, IsExact v := by
  constructor
  · intro h
    cases h with
    | array h => exact h
  · exact .array

@[simp] theorem isExact_object_iff {fields : List (String × Value)} :
    IsExact (.object fields) ↔ ∀ f ∈ fields, IsExact f.2 := by
  constructor
  · intro h
    cases h with
    | object h => exact h
  · exact .object

theorem spellsItems_compactItems (v : Value) (rest : List Value)
    (h : ∀ w ∈ v :: rest, Spells w w.compactChars) :
    SpellsItems (v :: rest) (compactItems (v :: rest) ++ [']']) := by
  induction rest generalizing v with
  | nil =>
      rw [compactItems]
      exact .last (h v List.mem_cons_self) isGap_nil
  | cons w rest ih =>
      rw [compactItems, List.append_assoc]
      have hrest := ih w fun u hu => h u (List.mem_cons_of_mem v hu)
      have hitems := SpellsItems.cons (h v List.mem_cons_self) isGap_nil isGap_nil hrest
      exact hitems

theorem spellsFields_compactFields (f : String × Value) (rest : List (String × Value))
    (h : ∀ g ∈ f :: rest, Spells g.2 g.2.compactChars) :
    SpellsFields (f :: rest) (compactFields (f :: rest) ++ ['\x7d']) := by
  induction rest generalizing f with
  | nil =>
      rw [compactFields, List.append_assoc]
      exact .last f.1 isGap_nil (h f List.mem_cons_self) isGap_nil
  | cons g rest ih =>
      rw [compactFields, List.append_assoc, List.cons_append, List.append_assoc]
      have hrest := ih g fun e he => h e (List.mem_cons_of_mem f he)
      have hv := h f List.mem_cons_self
      have hfields := SpellsFields.cons f.1 isGap_nil hv isGap_nil isGap_nil hrest
      exact hfields

/-- The compact form is a text of the value. -/
theorem spells_compactChars {v : Value} (h : v.IsExact) : Spells v v.compactChars := by
  induction h with
  | null =>
      rw [compactChars]
      exact .null
  | bool b =>
      cases b with
      | true => rw [compactChars]; exact .boolTrue
      | false => rw [compactChars]; exact .boolFalse
  | integer n =>
      rw [compactChars]
      exact .integer n
  | string s =>
      rw [compactChars]
      exact .string s
  | @array items h ih =>
      rw [compactChars]
      cases items with
      | nil => exact .emptyArray isGap_nil
      | cons v rest =>
          have harray := Spells.array isGap_nil (spellsItems_compactItems v rest ih)
          exact harray
  | @object fields h ih =>
      rw [compactChars]
      cases fields with
      | nil => exact .emptyObject isGap_nil
      | cons f rest =>
          have hobject := Spells.object isGap_nil (spellsFields_compactFields f rest ih)
          exact hobject

theorem isGap_lineBreak (level : Nat) : IsGap (lineBreak level) := by
  intro c hc
  rcases List.mem_cons.mp hc with rfl | hc
  · rfl
  · rw [List.eq_of_mem_replicate hc]
    rfl

/-- Items on lines of their own are a line break and a text of the items. -/
theorem spellsItems_prettyItems (level : Nat) {gap : List Char} (hgap : IsGap gap) (v : Value)
    (rest : List Value) (h : ∀ w ∈ v :: rest, Spells w (w.prettyChars level)) :
    ∃ cs, prettyItems level (v :: rest) ++ (gap ++ [']']) = lineBreak level ++ cs ∧
      SpellsItems (v :: rest) cs := by
  induction rest generalizing v with
  | nil =>
      refine ⟨_, ?_, .last (h v List.mem_cons_self) hgap⟩
      rw [prettyItems, List.append_assoc]
  | cons w rest ih =>
      obtain ⟨cs, hcs, hrest⟩ := ih w fun u hu => h u (List.mem_cons_of_mem v hu)
      refine ⟨_, ?_, .cons (h v List.mem_cons_self) isGap_nil (isGap_lineBreak level) hrest⟩
      rw [prettyItems, List.append_assoc, List.append_assoc, List.cons_append, hcs]
      rfl

/-- Fields on lines of their own are a line break and a text of the fields. -/
theorem spellsFields_prettyFields (level : Nat) {gap : List Char} (hgap : IsGap gap)
    (f : String × Value) (rest : List (String × Value))
    (h : ∀ g ∈ f :: rest, Spells g.2 (g.2.prettyChars level)) :
    ∃ cs, prettyFields level (f :: rest) ++ (gap ++ ['\x7d']) = lineBreak level ++ cs ∧
      SpellsFields (f :: rest) cs := by
  have hblank : IsGap [' '] := List.forall_mem_singleton.mpr rfl
  induction rest generalizing f with
  | nil =>
      refine ⟨_, ?_, .last f.1 hblank (h f List.mem_cons_self) hgap⟩
      simp [prettyFields]
  | cons g rest ih =>
      obtain ⟨cs, hcs, hrest⟩ := ih g fun e he => h e (List.mem_cons_of_mem f he)
      have hv := h f List.mem_cons_self
      refine ⟨_, ?_, .cons f.1 hblank hv isGap_nil (isGap_lineBreak level) hrest⟩
      simp [prettyFields, hcs]

/-- The pretty form is a text of the value. -/
theorem spells_prettyChars {v : Value} (h : v.IsExact) (level : Nat) :
    Spells v (v.prettyChars level) := by
  induction h generalizing level with
  | null =>
      rw [prettyChars]
      exact .null
  | bool b =>
      cases b with
      | true => rw [prettyChars]; exact .boolTrue
      | false => rw [prettyChars]; exact .boolFalse
  | integer n =>
      rw [prettyChars]
      exact .integer n
  | string s =>
      rw [prettyChars]
      exact .string s
  | @array items h ih =>
      cases items with
      | nil => rw [prettyChars]; exact .emptyArray isGap_nil
      | cons v rest =>
          obtain ⟨cs, hcs, hitems⟩ := spellsItems_prettyItems (level + 1) (isGap_lineBreak level)
            v rest fun w hw => ih w hw (level + 1)
          rw [prettyChars, List.append_assoc, hcs]
          exact .array (isGap_lineBreak (level + 1)) hitems
  | @object fields h ih =>
      cases fields with
      | nil => rw [prettyChars]; exact .emptyObject isGap_nil
      | cons f rest =>
          obtain ⟨cs, hcs, hfields⟩ := spellsFields_prettyFields (level + 1)
            (isGap_lineBreak level) f rest fun g hg => ih g hg (level + 1)
          rw [prettyChars, List.append_assoc, hcs]
          exact .object (isGap_lineBreak (level + 1)) hfields

/-- **Round trip.** The compact text of a value is read as the value. -/
theorem read?_compact {v : Value} (h : v.IsExact) : Value.read? v.compact = some v :=
  (spells_compactChars h).read?

/-- **Round trip.** The pretty text of a value is read as the value. -/
theorem read?_pretty {v : Value} (h : v.IsExact) : Value.read? v.pretty = some v :=
  (spells_prettyChars h 0).read?

end Value

end ClientTraits.Json
