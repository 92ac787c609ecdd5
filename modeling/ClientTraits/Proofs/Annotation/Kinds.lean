import Mathlib.Tactic.MkIffOfInductiveProp
import ClientTraits.Proofs.Annotation.Declared

/-!
# Kinds of attributes

Each attribute that is read adds to one of four things: routes, headers, query items or timeouts.
So the attributes of a method have four readings that do not know of each other. Each goes over the
attributes of one kind, from left to right (`Kind.Makes`). A trait has two of them. The readings are
all that a declaration takes from its attributes (`Method.ofFunction_eq_ok_iff`,
`Interface.ofTrait_eq_ok_iff`).

## Proof shape

One attribute adds what it says to the reading of its kind and nothing to the others
(`Method.annotate_eq_ok_iff`, `Shared.annotate_eq_ok_iff`). The readings of a longer list are those
of its parts, joined (`Kind.makes_append_iff`), and so are the additions. Hence going over the
attributes yields what the readings yield (`foldlM_eq_ok_iff_of_step`).
-/

namespace ClientTraits

open Rust

/-! ### Readings -/

/-- What an attribute adds to. -/
inductive Kind
  | route
  | header
  | query
  | timeout
  deriving DecidableEq, Repr

/-- What the attribute of this name adds to. -/
def Kind.ofName? : String → Option Kind
  | "request" => some route
  | "header" => some header
  | "headers" => some header
  | "query" => some query
  | "queries" => some query
  | "timeout" => some timeout
  | name => (Verb.ofShorthand? name).map fun _ => route

/-- What an attribute adds to, if it is read at all. -/
def Rust.Attribute.kind? (a : Attribute) : Option Kind :=
  a.name?.bind Kind.ofName?

namespace Helper

/-- The route of an attribute, by its own name or by its arguments. -/
def routeOf (a : Attribute) : Except AnnotationError Route :=
  match a.name?.bind Verb.ofShorthand? with
  | some verb => shorthandRoute verb a
  | none => genericRoute a

/-- The headers of an attribute: a list of them, or a single one. -/
def headersOf (a : Attribute) : Except AnnotationError (List Header) :=
  if a.hasName "headers" then headers a else (fun h => [h]) <$> header a

/-- The query items of an attribute: a list of them, or a single one. -/
def queriesOf (a : Attribute) : Except AnnotationError (List QueryItem) :=
  if a.hasName "queries" then queries a else (fun q => [q]) <$> query a

end Helper

namespace Kind

/-- The attributes of a kind, in their order. -/
def among (k : Kind) (attributes : List Attribute) : List Attribute :=
  attributes.filter fun a => a.kind? = some k

section Makes

variable {α β : Type} {k : Kind} {read : Attribute → Except AnnotationError α} {join : List α → β}
  {as bs : List Attribute} {a : Attribute} {x : β}

/-- All attributes of a kind can be read, and what they say from left to right makes `x`. -/
def Makes (k : Kind) (read : Attribute → Except AnnotationError α) (join : List α → β)
    (attributes : List Attribute) (x : β) : Prop :=
  ∃ said, (k.among attributes).mapM read = .ok said ∧ x = join said

theorem makes_congr (h : k.among as = k.among bs) :
    k.Makes read join as x ↔ k.Makes read join bs x := by
  rw [Makes, Makes, h]

/-- Nothing is made of attributes of other kinds. -/
theorem makes_iff_of_among_eq_nil (h : k.among as = []) :
    k.Makes read join as x ↔ x = join [] := by
  rw [Makes, h]
  constructor
  · rintro ⟨said, hsaid, rfl⟩
    cases hsaid
    rfl
  · rintro rfl
    exact ⟨[], rfl, rfl⟩

theorem among_eq_nil (h : ∀ a ∈ as, a.kind? ≠ some k) : k.among as = [] :=
  List.filter_eq_nil_iff.mpr fun a ha => by simpa using h a ha

theorem among_eq_self (h : ∀ a ∈ as, a.kind? = some k) : k.among as = as :=
  List.filter_eq_self.mpr fun a ha => by simpa using h a ha

theorem makes_singleton_iff (h : a.kind? = some k) :
    k.Makes read join [a] x ↔ ∃ y, read a = .ok y ∧ x = join [y] := by
  rw [Makes, among_eq_self (List.forall_mem_singleton.mpr h)]
  simp only [mapM_cons_eq_ok_iff]
  constructor
  · rintro ⟨said, ⟨y, rest, hy, hrest, rfl⟩, rfl⟩
    cases hrest
    exact ⟨y, hy, rfl⟩
  · rintro ⟨y, hy, rfl⟩
    exact ⟨[y], ⟨y, [], hy, rfl, rfl⟩, rfl⟩

theorem makes_singleton_iff_of_ne (h : a.kind? ≠ some k) :
    k.Makes read join [a] x ↔ x = join [] :=
  makes_iff_of_among_eq_nil (among_eq_nil (List.forall_mem_singleton.mpr h))

/-- Of a list in two parts, what is made of it is joined of what is made of them. -/
theorem makes_append_iff {op : β → β → β}
    (hjoin : ∀ xs ys, join (xs ++ ys) = op (join xs) (join ys)) :
    k.Makes read join (as ++ bs) x ↔
      ∃ y z, k.Makes read join as y ∧ k.Makes read join bs z ∧ x = op y z := by
  rw [Makes, among, List.filter_append]
  simp only [mapM_append_eq_ok_iff]
  constructor
  · rintro ⟨_, ⟨xs, ys, hxs, hys, rfl⟩, rfl⟩
    exact ⟨join xs, join ys, ⟨xs, hxs, rfl⟩, ⟨ys, hys, rfl⟩, hjoin xs ys⟩
  · rintro ⟨_, _, ⟨xs, hxs, rfl⟩, ⟨ys, hys, rfl⟩, rfl⟩
    exact ⟨xs ++ ys, ⟨xs, ys, hxs, hys, rfl⟩, (hjoin xs ys).symm⟩

end Makes

end Kind

theorem Timeouts.foldl_merge_append (xs ys : List Timeouts) :
    (xs ++ ys).foldl merge unset = (xs.foldl merge unset).merge (ys.foldl merge unset) := by
  have hfrom : ∀ t : Timeouts, ys.foldl merge t = t.merge (ys.foldl merge unset) := by
    induction ys with
    | nil => exact fun t => (merge_unset t).symm
    | cons y rest ih =>
        intro t
        rw [List.foldl_cons, List.foldl_cons, ih, ih (unset.merge y), unset_merge, merge_assoc]
  rw [List.foldl_append, hfrom]

/-! ### What attributes add -/

/-- What the attributes of a method add to it. -/
structure Additions extends Shared where
  routes : List Route
  queries : List QueryItem
  deriving DecidableEq, Repr

/-- The headers and times of both, one behind the other. -/
def Shared.append (s t : Shared) : Shared :=
  ⟨s.headers ++ t.headers, s.timeouts.merge t.timeouts⟩

/-- What both say, one behind the other. -/
def Additions.append (x y : Additions) : Additions :=
  ⟨x.toShared.append y.toShared, x.routes ++ y.routes, x.queries ++ y.queries⟩

/-- The method with more settings. -/
def Method.add (m : Method) (x : Additions) : Method :=
  { m with
    routes := m.routes ++ x.routes
    headers := m.headers ++ x.headers
    queries := m.queries ++ x.queries
    timeouts := m.timeouts.merge x.timeouts }

/-- The settings of a method. -/
def Method.additions (m : Method) : Additions :=
  ⟨⟨m.headers, m.timeouts⟩, m.routes, m.queries⟩

/-- The headers in source order, and the timeouts, of which later ones override earlier ones. -/
@[mk_iff]
structure Shared.IsReadFrom (s : Shared) (attributes : List Attribute) : Prop where
  headers : Kind.header.Makes Helper.headersOf List.flatten attributes s.headers
  timeouts :
    Kind.timeout.Makes Helper.timeouts (List.foldl Timeouts.merge .unset) attributes s.timeouts

/-- The routes and the query items in source order, and the headers and timeouts. -/
@[mk_iff]
structure Additions.AreReadFrom (x : Additions) (attributes : List Attribute) : Prop where
  shared : x.toShared.IsReadFrom attributes
  routes : Kind.route.Makes Helper.routeOf id attributes x.routes
  queries : Kind.query.Makes Helper.queriesOf List.flatten attributes x.queries

section Append

variable {as bs : List Attribute}

theorem Shared.isReadFrom_append_iff {s : Shared} :
    s.IsReadFrom (as ++ bs) ↔
      ∃ x y : Shared, x.IsReadFrom as ∧ y.IsReadFrom bs ∧ s = x.append y := by
  rw [isReadFrom_iff, Kind.makes_append_iff fun _ _ => List.flatten_append,
    Kind.makes_append_iff Timeouts.foldl_merge_append]
  constructor
  · rintro ⟨⟨h₁, h₂, hh₁, hh₂, hh⟩, t₁, t₂, ht₁, ht₂, ht⟩
    exact ⟨⟨h₁, t₁⟩, ⟨h₂, t₂⟩, ⟨hh₁, ht₁⟩, ⟨hh₂, ht₂⟩, by cases s; cases hh; cases ht; rfl⟩
  · rintro ⟨x, y, hx, hy, rfl⟩
    exact ⟨⟨_, _, hx.headers, hy.headers, rfl⟩, _, _, hx.timeouts, hy.timeouts, rfl⟩

theorem Additions.areReadFrom_append_iff {z : Additions} :
    z.AreReadFrom (as ++ bs) ↔
      ∃ x y : Additions, x.AreReadFrom as ∧ y.AreReadFrom bs ∧ z = x.append y := by
  rw [areReadFrom_iff, Shared.isReadFrom_append_iff, Kind.makes_append_iff fun _ _ => rfl,
    Kind.makes_append_iff fun _ _ => List.flatten_append]
  constructor
  · rintro ⟨⟨s₁, s₂, hs₁, hs₂, hs⟩, ⟨r₁, r₂, hr₁, hr₂, hr⟩, q₁, q₂, hq₁, hq₂, hq⟩
    exact ⟨⟨s₁, r₁, q₁⟩, ⟨s₂, r₂, q₂⟩, ⟨hs₁, hr₁, hq₁⟩, ⟨hs₂, hr₂, hq₂⟩,
      by cases z; cases hs; cases hr; cases hq; rfl⟩
  · rintro ⟨x, y, hx, hy, rfl⟩
    exact ⟨⟨_, _, hx.shared, hy.shared, rfl⟩, ⟨_, _, hx.routes, hy.routes, rfl⟩, _, _, hx.queries,
      hy.queries, rfl⟩

end Append

/-! ### One attribute after another -/

/-- What each attribute does on its own, and lists of them one behind the other, is done by going
over a list. -/
theorem foldlM_eq_ok_iff_of_step {α : Type} {annotate : α → Attribute → Except AnnotationError α}
    {gains : α → List Attribute → α → Prop} (nil : ∀ m m', gains m [] m' ↔ m' = m)
    (step : ∀ m a m', annotate m a = .ok m' ↔ gains m [a] m')
    (append : ∀ m as bs m', gains m (as ++ bs) m' ↔ ∃ m₁, gains m as m₁ ∧ gains m₁ bs m')
    (attributes : List Attribute) (m m' : α) :
    attributes.foldlM annotate m = .ok m' ↔ gains m attributes m' := by
  induction attributes generalizing m with
  | nil =>
      rw [nil]
      constructor
      · intro h
        cases h
        rfl
      · rintro rfl
        rfl
  | cons a rest ih =>
      rw [List.foldlM_cons, bind_eq_ok_iff, ← List.singleton_append, append]
      simp only [step, ih]

/-- The second settings are the first ones with what is read from the attributes. -/
def Shared.Gains (s : Shared) (attributes : List Attribute) (s' : Shared) : Prop :=
  ∃ x : Shared, x.IsReadFrom attributes ∧ s' = s.append x

/-- The second method is the first one with what is read from the attributes. -/
def Method.Gains (m : Method) (attributes : List Attribute) (m' : Method) : Prop :=
  ∃ x : Additions, x.AreReadFrom attributes ∧ m' = m.add x

theorem Shared.isReadFrom_nil_iff {s : Shared} : s.IsReadFrom [] ↔ s = ⟨[], .unset⟩ := by
  rw [isReadFrom_iff, Kind.makes_iff_of_among_eq_nil rfl, Kind.makes_iff_of_among_eq_nil rfl]
  constructor
  · rintro ⟨h, t⟩
    cases s; cases h; cases t; rfl
  · rintro rfl
    exact ⟨rfl, rfl⟩

theorem Additions.areReadFrom_nil_iff {x : Additions} :
    x.AreReadFrom [] ↔ x = ⟨⟨[], .unset⟩, [], []⟩ := by
  rw [areReadFrom_iff, Shared.isReadFrom_nil_iff, Kind.makes_iff_of_among_eq_nil rfl,
    Kind.makes_iff_of_among_eq_nil rfl]
  constructor
  · rintro ⟨s, r, q⟩
    cases x; cases s; cases r; cases q; rfl
  · rintro rfl
    exact ⟨rfl, rfl, rfl⟩

/-- Which attributes of a method are read, and how. -/
theorem Method.annotate_eq (m : Method) (a : Attribute) :
    m.annotate a = match a.kind? with
      | some .route => (fun r => { m with routes := m.routes ++ [r] }) <$> Helper.routeOf a
      | some .header => (fun l => { m with headers := m.headers ++ l }) <$> Helper.headersOf a
      | some .query => (fun l => { m with queries := m.queries ++ l }) <$> Helper.queriesOf a
      | some .timeout =>
          (fun t => { m with timeouts := m.timeouts.merge t }) <$> Helper.timeouts a
      | none => .ok m := by
  unfold annotate
  split
  case h_1 h => simp [Attribute.kind?, h]; rfl
  case h_8 name h₁ h₂ h₃ h₄ h₅ h₆ h =>
    have hkind : a.kind? = (Verb.ofShorthand? name).map fun _ => .route := by
      simp only [Attribute.kind?, h, Option.bind_some, Kind.ofName?]
    rw [hkind, Helper.routeOf, h, Option.bind_some]
    cases Verb.ofShorthand? name with
    | none => rfl
    | some verb => simp
  all_goals
    next h =>
      simp [Attribute.kind?, h, Kind.ofName?, Helper.routeOf, Helper.headersOf, Helper.queriesOf,
        Attribute.hasName_eq_of_name? h, Verb.ofShorthand?]

theorem Kind.ofName?_eq_header_iff {name : String} :
    ofName? name = some header ↔ name = "header" ∨ name = "headers" := by
  unfold ofName?
  split <;> simp_all

theorem Kind.ofName?_eq_timeout_iff {name : String} :
    ofName? name = some timeout ↔ name = "timeout" := by
  unfold ofName?
  split <;> simp_all

theorem Rust.Attribute.kind?_eq_some_iff {k : Kind} {a : Attribute} :
    a.kind? = some k ↔ ∃ name, a.hasName name = true ∧ Kind.ofName? name = some k := by
  simp only [kind?, Option.bind_eq_some_iff, name?_eq_some_iff]

theorem Rust.Attribute.kind?_of_hasName {a : Attribute} {name : String}
    (h : a.hasName name = true) : a.kind? = Kind.ofName? name := by
  rw [kind?, name?_eq_some_iff.mpr h, Option.bind_some]

/-- Which attributes of a trait are read, and how. -/
theorem Shared.annotate_eq (s : Shared) (a : Attribute) :
    s.annotate a = match a.kind? with
      | some .header => (fun l => { s with headers := s.headers ++ l }) <$> Helper.headersOf a
      | some .timeout =>
          (fun t => { s with timeouts := s.timeouts.merge t }) <$> Helper.timeouts a
      | _ => .ok s := by
  unfold annotate
  split
  case isTrue h =>
    have hname := Attribute.hasName_eq_of_name? (Attribute.name?_eq_some_iff.mpr h) "headers"
    simp [Attribute.kind?_of_hasName h, Kind.ofName?, Helper.headersOf, hname]
  case isFalse hheader =>
    split
    case isTrue h => simp [Attribute.kind?_of_hasName h, Kind.ofName?, Helper.headersOf, h]
    case isFalse hheaders =>
      split
      case isTrue h => simp [Attribute.kind?_of_hasName h, Kind.ofName?]
      case isFalse htimeout =>
        split
        case h_1 hkind =>
          obtain ⟨name, hname, hkind⟩ := Attribute.kind?_eq_some_iff.mp hkind
          rcases Kind.ofName?_eq_header_iff.mp hkind with rfl | rfl
          · exact absurd hname hheader
          · exact absurd hname hheaders
        case h_2 hkind =>
          obtain ⟨name, hname, hkind⟩ := Attribute.kind?_eq_some_iff.mp hkind
          obtain rfl := Kind.ofName?_eq_timeout_iff.mp hkind
          exact absurd hname htimeout
        case h_3 => rfl

section Step

/-- One attribute adds to the reading of its kind only. -/
theorem Shared.annotate_eq_ok_iff (s : Shared) (a : Attribute) (s' : Shared) :
    s.annotate a = .ok s' ↔ s.Gains [a] s' := by
  rw [annotate_eq, Gains]
  simp only [isReadFrom_iff]
  split
  case h_1 hkind =>
    simp (disch := simp [hkind]) only [Kind.makes_singleton_iff hkind,
      Kind.makes_singleton_iff_of_ne, map_eq_ok_iff]
    constructor
    · rintro ⟨l, hl, rfl⟩
      exact ⟨⟨l, .unset⟩, ⟨⟨l, hl, by simp⟩, rfl⟩, by simp [append]⟩
    · rintro ⟨⟨_, _⟩, ⟨⟨l, hl, rfl⟩, rfl⟩, rfl⟩
      exact ⟨l, hl, by simp [append]⟩
  case h_2 hkind =>
    simp (disch := simp [hkind]) only [Kind.makes_singleton_iff hkind,
      Kind.makes_singleton_iff_of_ne, map_eq_ok_iff]
    constructor
    · rintro ⟨t, ht, rfl⟩
      exact ⟨⟨[], t⟩, ⟨rfl, t, ht, by simp⟩, by simp [append]⟩
    · rintro ⟨⟨_, _⟩, ⟨rfl, t, ht, rfl⟩, rfl⟩
      exact ⟨t, ht, by simp [append]⟩
  case h_3 hheader htimeout =>
    simp (disch := assumption) only [Kind.makes_singleton_iff_of_ne]
    constructor
    · intro h
      cases h
      exact ⟨⟨[], .unset⟩, ⟨rfl, rfl⟩, by simp [append]⟩
    · rintro ⟨⟨_, _⟩, ⟨rfl, rfl⟩, rfl⟩
      simp [append]

/-- One attribute adds to the reading of its kind only. -/
theorem Method.annotate_eq_ok_iff (m : Method) (a : Attribute) (m' : Method) :
    m.annotate a = .ok m' ↔ m.Gains [a] m' := by
  rw [annotate_eq, Gains]
  simp only [Additions.areReadFrom_iff, Shared.isReadFrom_iff]
  split
  case h_1 hkind =>
    simp (disch := simp [hkind]) only [Kind.makes_singleton_iff hkind,
      Kind.makes_singleton_iff_of_ne, map_eq_ok_iff]
    constructor
    · rintro ⟨r, hr, rfl⟩
      exact ⟨⟨⟨[], .unset⟩, [r], []⟩, ⟨⟨rfl, rfl⟩, ⟨r, hr, rfl⟩, rfl⟩, by simp [add]⟩
    · rintro ⟨⟨⟨_, _⟩, _, _⟩, ⟨⟨rfl, rfl⟩, ⟨r, hr, rfl⟩, rfl⟩, rfl⟩
      exact ⟨r, hr, by simp [add]⟩
  case h_2 hkind =>
    simp (disch := simp [hkind]) only [Kind.makes_singleton_iff hkind,
      Kind.makes_singleton_iff_of_ne, map_eq_ok_iff]
    constructor
    · rintro ⟨l, hl, rfl⟩
      exact ⟨⟨⟨l, .unset⟩, [], []⟩, ⟨⟨⟨l, hl, by simp⟩, rfl⟩, rfl, rfl⟩, by simp [add]⟩
    · rintro ⟨⟨⟨_, _⟩, _, _⟩, ⟨⟨⟨l, hl, rfl⟩, rfl⟩, rfl, rfl⟩, rfl⟩
      exact ⟨l, hl, by simp [add]⟩
  case h_3 hkind =>
    simp (disch := simp [hkind]) only [Kind.makes_singleton_iff hkind,
      Kind.makes_singleton_iff_of_ne, map_eq_ok_iff]
    constructor
    · rintro ⟨l, hl, rfl⟩
      exact ⟨⟨⟨[], .unset⟩, [], l⟩, ⟨⟨rfl, rfl⟩, rfl, l, hl, by simp⟩, by simp [add]⟩
    · rintro ⟨⟨⟨_, _⟩, _, _⟩, ⟨⟨rfl, rfl⟩, rfl, l, hl, rfl⟩, rfl⟩
      exact ⟨l, hl, by simp [add]⟩
  case h_4 hkind =>
    simp (disch := simp [hkind]) only [Kind.makes_singleton_iff hkind,
      Kind.makes_singleton_iff_of_ne, map_eq_ok_iff]
    constructor
    · rintro ⟨t, ht, rfl⟩
      exact ⟨⟨⟨[], t⟩, [], []⟩, ⟨⟨rfl, t, ht, by simp⟩, rfl, rfl⟩, by simp [add]⟩
    · rintro ⟨⟨⟨_, _⟩, _, _⟩, ⟨⟨rfl, t, ht, rfl⟩, rfl, rfl⟩, rfl⟩
      exact ⟨t, ht, by simp [add]⟩
  case h_5 hkind =>
    simp (disch := simp [hkind]) only [Kind.makes_singleton_iff_of_ne]
    constructor
    · intro h
      cases h
      exact ⟨⟨⟨[], .unset⟩, [], []⟩, ⟨⟨rfl, rfl⟩, rfl, rfl⟩, by simp [add]⟩
    · rintro ⟨⟨⟨_, _⟩, _, _⟩, ⟨⟨rfl, rfl⟩, rfl, rfl⟩, rfl⟩
      simp [add]

end Step

section Run

variable {as bs : List Attribute}

theorem Shared.gains_append_iff (s : Shared) (as bs : List Attribute) (s' : Shared) :
    s.Gains (as ++ bs) s' ↔ ∃ s₁, s.Gains as s₁ ∧ s₁.Gains bs s' := by
  simp only [Gains, isReadFrom_append_iff]
  constructor
  · rintro ⟨_, ⟨x, y, hx, hy, rfl⟩, rfl⟩
    exact ⟨_, ⟨x, hx, rfl⟩, y, hy, by simp [append, Timeouts.merge_assoc]⟩
  · rintro ⟨_, ⟨x, hx, rfl⟩, y, hy, rfl⟩
    exact ⟨_, ⟨x, y, hx, hy, rfl⟩, by simp [append, Timeouts.merge_assoc]⟩

theorem Method.gains_append_iff (m : Method) (as bs : List Attribute) (m' : Method) :
    m.Gains (as ++ bs) m' ↔ ∃ m₁, m.Gains as m₁ ∧ m₁.Gains bs m' := by
  simp only [Gains, Additions.areReadFrom_append_iff]
  constructor
  · rintro ⟨_, ⟨x, y, hx, hy, rfl⟩, rfl⟩
    refine ⟨_, ⟨x, hx, rfl⟩, y, hy, ?_⟩
    simp [add, Additions.append, Shared.append, Timeouts.merge_assoc]
  · rintro ⟨_, ⟨x, hx, rfl⟩, y, hy, rfl⟩
    refine ⟨_, ⟨x, y, hx, hy, rfl⟩, ?_⟩
    simp [add, Additions.append, Shared.append, Timeouts.merge_assoc]

theorem Shared.gains_nil_iff (s s' : Shared) : s.Gains [] s' ↔ s' = s := by
  simp [Gains, isReadFrom_nil_iff, append]

theorem Method.gains_nil_iff (m m' : Method) : m.Gains [] m' ↔ m' = m := by
  simp [Gains, Additions.areReadFrom_nil_iff, add]

/-- Going over the attributes of a trait adds what is read from them, kind by kind. -/
theorem Shared.foldlM_annotate_eq_ok_iff (attributes : List Attribute) (s s' : Shared) :
    attributes.foldlM annotate s = .ok s' ↔ s.Gains attributes s' :=
  foldlM_eq_ok_iff_of_step gains_nil_iff annotate_eq_ok_iff gains_append_iff attributes s s'

/-- Going over the attributes of a method adds what is read from them, kind by kind. -/
theorem Method.foldlM_annotate_eq_ok_iff (attributes : List Attribute) (m m' : Method) :
    attributes.foldlM annotate m = .ok m' ↔ m.Gains attributes m' :=
  foldlM_eq_ok_iff_of_step gains_nil_iff annotate_eq_ok_iff gains_append_iff attributes m m'

end Run

/-- All that the declaration of a method is read from. -/
theorem Method.ofFunction_eq_ok_iff {f : Function} {m : Method} :
    ofFunction f = .ok m ↔ m.name = f.name ∧ m.isAsync = f.isAsynchronous ∧
      Param.ofInputs f.inputs = .ok m.params ∧ m.additions.AreReadFrom f.attributes := by
  simp only [ofFunction, bind_eq_ok_iff, foldlM_annotate_eq_ok_iff]
  constructor
  · rintro ⟨_, ⟨x, hx, rfl⟩, params, hparams, h⟩
    cases h
    refine ⟨rfl, rfl, hparams, ?_⟩
    simpa [additions, add, bare] using hx
  · rintro ⟨hname, hasync, hparams, hx⟩
    refine ⟨_, ⟨m.additions, hx, rfl⟩, m.params, hparams, ?_⟩
    simp [additions, add, bare, ← hname, ← hasync]
    rfl

/-- The settings that an interface has for all methods. -/
def Interface.settings (i : Interface) : Shared :=
  ⟨i.headers, i.timeouts⟩

/-- All that the declaration of a trait is read from. -/
theorem Interface.ofTrait_eq_ok_iff {t : Trait} {i : Interface} :
    ofTrait t = .ok i ↔ i.name = t.name ∧
      i.isClient = (t.attributes.any fun a => a.hasName "client") ∧
      i.parents = t.bounds.filterMap Bound.name? ∧ Method.ofMembers t.members = .ok i.methods ∧
      i.settings.IsReadFrom t.attributes := by
  simp only [ofTrait, bind_eq_ok_iff, Shared.foldlM_annotate_eq_ok_iff]
  constructor
  · rintro ⟨_, ⟨x, hx, rfl⟩, methods, hmethods, h⟩
    cases h
    refine ⟨rfl, rfl, rfl, hmethods, ?_⟩
    simpa [settings, Shared.append] using hx
  · rintro ⟨hname, hclient, hparents, hmethods, hx⟩
    refine ⟨_, ⟨i.settings, hx, rfl⟩, i.methods, hmethods, ?_⟩
    simp [settings, Shared.append, ← hname, ← hclient, ← hparents]
    rfl

end ClientTraits
