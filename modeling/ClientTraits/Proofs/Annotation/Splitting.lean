import Mathlib.Data.List.Forall2
import ClientTraits.Proofs.Annotation.Kinds

/-!
# Attributes in another order

Attributes of different kinds, and those that are not read, may stand in any order. An attribute
that lists several headers, query items or times may be written as several attributes
(`Attribute.SplitsInto`). The declaration stays the same (`attributes_read_by_kind`).

## Proof shape

A declaration takes nothing from its attributes but what the readings of their kinds make of them.
So it is enough that no reading can tell an attribute from its parts (`SplitsInto.makes_headers` and
its siblings). For the lines of a list this is how a traversal of a longer list goes. Of times, each
part says the whole restricted to one key (`Timeouts.restrict`), and the restrictions to all keys
make up the whole (`Timeouts.foldl_merge_restrict`).
-/

namespace ClientTraits

open Rust

section Except

variable {α β ε : Type}

/-- Results of a list that is put together are the results of its parts. -/
theorem exists_mapM_of_mapM_flatten {f : α → Except ε β} {lists : List (List α)}
    {results : List β} (h : lists.flatten.mapM f = .ok results) :
    ∃ parts, lists.mapM (fun list => list.mapM f) = .ok parts ∧ parts.flatten = results := by
  induction lists generalizing results with
  | nil =>
      cases h
      exact ⟨[], rfl, rfl⟩
  | cons list rest ih =>
      obtain ⟨xs, ys, hxs, hys, rfl⟩ := mapM_append_eq_ok_iff.mp h
      obtain ⟨parts, hparts, rfl⟩ := ih hys
      refine ⟨xs :: parts, ?_, rfl⟩
      rw [List.mapM_cons, hxs, hparts]
      rfl

theorem mapM_eq_of_forall₂ {γ : Type} {f : α → Except ε γ} {g : β → Except ε γ} {as : List α}
    {bs : List β} (h : List.Forall₂ (fun a b => f a = g b) as bs) : as.mapM f = bs.mapM g := by
  induction h with
  | nil => rfl
  | cons hab _ ih => rw [List.mapM_cons, List.mapM_cons, hab, ih]

end Except

/-! ### Attributes that are split -/

/-- The attribute has this name and these arguments. -/
def Rust.Attribute.Reads (a : Attribute) (name : String) (args : Arguments) : Prop :=
  a.hasName name = true ∧ Arguments.ofAttribute a = .ok args

/-- The arguments under one name. -/
def Arguments.under (args : Arguments) (name : String) : Arguments :=
  ⟨[], args.named.filter fun pair => pair.1 == name⟩

/-- What the attribute lists is given to several attributes, one behind the other. -/
inductive Rust.Attribute.SplitsInto (a : Attribute) : List Attribute → Prop
  /-- Headers or query items, cut into consecutive lists. -/
  | lines {name : String} (hname : name = "headers" ∨ name = "queries")
      {chunks : List (List String)} {parts : List Attribute}
      (ha : a.Reads name ⟨chunks.flatten, []⟩)
      (hparts : List.Forall₂ (fun b chunk => b.Reads name ⟨chunk, []⟩) parts chunks) :
      SplitsInto a parts
  /-- Times, with one attribute for each key. Of two values of a key the first one counts, so they
  stay together. -/
  | times {args : Arguments} {keys : List String} {parts : List Attribute}
      (ha : a.Reads "timeout" args) (hkeys : ∀ pair ∈ args.named, pair.1 ∈ keys)
      (hparts : List.Forall₂ (fun b key => b.Reads "timeout" (args.under key)) parts keys) :
      SplitsInto a parts

namespace Timeouts

/-- The times under these names, with the others unset. -/
def restrict (t : Timeouts) (keys : List String) : Timeouts :=
  ⟨if "connect" ∈ keys then t.connect else none, if "request" ∈ keys then t.request else none,
    if "socket" ∈ keys then t.socket else none⟩

theorem restrict_cons (t : Timeouts) (key : String) (keys : List String) :
    t.restrict (key :: keys) = (t.restrict [key]).merge (t.restrict keys) := by
  have htime : ∀ (name : String) (time : Option Nat), (if name ∈ key :: keys then time else none) =
      ((if name ∈ keys then time else none) <|> if name ∈ [key] then time else none) := by
    intro name time
    by_cases hkeys : name ∈ keys
    · cases time <;> simp [hkeys]
    · simp [hkeys]
  rw [restrict, htime, htime, htime]
  rfl

/-- Times that are given one by one make up all of them. -/
theorem foldl_merge_restrict (t : Timeouts) (keys : List String) :
    (keys.map fun key => t.restrict [key]).foldl merge unset = t.restrict keys := by
  induction keys with
  | nil => rfl
  | cons key rest ih =>
      rw [List.map_cons, ← List.singleton_append, foldl_merge_append, ih, List.foldl_cons,
        List.foldl_nil, unset_merge, restrict_cons t key rest]

theorem restrict_eq_self {t : Timeouts} {keys : List String}
    (hconnect : "connect" ∉ keys → t.connect = none)
    (hrequest : "request" ∉ keys → t.request = none)
    (hsocket : "socket" ∉ keys → t.socket = none) : t.restrict keys = t := by
  have htime : ∀ (name : String) (time : Option Nat), (name ∉ keys → time = none) →
      (if name ∈ keys then time else none) = time := by
    intro name time h
    split
    · rfl
    · next hno => exact (h hno).symm
  rw [restrict, htime _ _ hconnect, htime _ _ hrequest, htime _ _ hsocket]

end Timeouts

namespace Arguments

variable {args : Arguments} {key name : String}

theorem value?_eq_none (h : ∀ pair ∈ args.named, pair.1 ≠ name) :
    args.value? name = Option.none := by
  rw [value?, List.find?_eq_none.mpr fun pair hpair => by simpa using h pair hpair]
  rfl

theorem value?_under (args : Arguments) (key name : String) :
    (args.under key).value? name = if name = key then args.value? name else Option.none := by
  split
  · next h =>
      subst h
      simp [value?, under, List.find?_filter, beq_eq_decide]
  · next h =>
      refine value?_eq_none fun pair hpair heq => h ?_
      rw [← heq, ← beq_iff_eq, (List.mem_filter.mp hpair).2]

theorem integer?_under (args : Arguments) (key name : String) :
    (args.under key).integer? name =
      if name = key then args.integer? name else .ok Option.none := by
  rw [integer?, value?_under]
  by_cases h : name = key
  · rw [if_pos h, if_pos h, integer?]
  · rw [if_neg h, if_neg h]

theorem expectNames_under {known : List String} (h : args.expectNames known = .ok ()) :
    (args.under key).expectNames known = .ok () :=
  expectNames_eq_ok_iff.mpr fun pair hpair =>
    expectNames_eq_ok_iff.mp h pair (List.mem_of_mem_filter hpair)

end Arguments

namespace Helper

variable {a b : Attribute} {args : Arguments} {t : Timeouts}

theorem timeouts_eq_ok_iff (ha : Arguments.ofAttribute a = .ok args) :
    timeouts a = .ok t ↔ args.expectNames ["connect", "request", "socket"] = .ok () ∧
      ∃ connect request socket, args.integer? "connect" = .ok connect ∧
        args.integer? "request" = .ok request ∧ args.integer? "socket" = .ok socket ∧
        t = .ofInts (connect.getD (-1)) (request.getD (-1)) (socket.getD (-1)) := by
  simp only [timeouts, arguments, bind_eq_ok_iff, ha]
  constructor
  · rintro ⟨_, ⟨_, hargs, _, hnames, h⟩, connect, hconnect, request, hrequest, socket, hsocket, ht⟩
    cases hargs
    cases h
    cases ht
    exact ⟨hnames, connect, request, socket, hconnect, hrequest, hsocket, rfl⟩
  · rintro ⟨hnames, connect, request, socket, hconnect, hrequest, hsocket, rfl⟩
    exact ⟨args, ⟨args, rfl, (), hnames, rfl⟩, connect, hconnect, request, hrequest, socket,
      hsocket, rfl⟩

/-- The arguments under one name say the one time that has it. -/
theorem timeouts_of_under {key : String} (ha : Arguments.ofAttribute a = .ok args)
    (hb : Arguments.ofAttribute b = .ok (args.under key)) (h : timeouts a = .ok t) :
    timeouts b = .ok (t.restrict [key]) := by
  obtain ⟨hnames, connect, request, socket, hconnect, hrequest, hsocket, rfl⟩ :=
    (timeouts_eq_ok_iff ha).mp h
  have hinteger : ∀ {name : String} {n : Option Int}, args.integer? name = .ok n →
      (args.under key).integer? name = .ok (if name = key then n else none) := by
    intro name n hn
    rw [Arguments.integer?_under, hn]
    split <;> rfl
  have htime : ∀ (name : String) (n : Option Int),
      Timeouts.timeOfInt ((if name = key then n else none).getD (-1)) =
        if name ∈ [key] then Timeouts.timeOfInt (n.getD (-1)) else none := by
    intro name n
    by_cases hname : name = key
    · rw [if_pos hname, if_pos (List.mem_singleton.mpr hname)]
    · rw [if_neg hname, if_neg fun hmem => hname (List.mem_singleton.mp hmem)]
      rfl
  refine (timeouts_eq_ok_iff hb).mpr ⟨Arguments.expectNames_under hnames, _, _, _,
    hinteger hconnect, hinteger hrequest, hinteger hsocket, ?_⟩
  simp only [Timeouts.ofInts, htime]
  rfl

/-- No time is set whose name is not there. -/
theorem restrict_of_timeouts {keys : List String} (ha : Arguments.ofAttribute a = .ok args)
    (hkeys : ∀ pair ∈ args.named, pair.1 ∈ keys) (h : timeouts a = .ok t) :
    t.restrict keys = t := by
  obtain ⟨-, connect, request, socket, hconnect, hrequest, hsocket, rfl⟩ :=
    (timeouts_eq_ok_iff ha).mp h
  have htime : ∀ {name : String} {n : Option Int}, args.integer? name = .ok n → name ∉ keys →
      Timeouts.timeOfInt (n.getD (-1)) = none := by
    intro name n hn hname
    have hvalue : args.value? name = none :=
      Arguments.value?_eq_none fun pair hpair heq => hname (heq ▸ hkeys pair hpair)
    rw [Arguments.integer?, hvalue] at hn
    cases hn
    rfl
  exact Timeouts.restrict_eq_self (htime hconnect) (htime hrequest) (htime hsocket)

theorem headersOf_of_reads {chunk : List String} (h : a.Reads "headers" ⟨chunk, []⟩) :
    headersOf a = chunk.mapM headerLine := by
  rw [headersOf, if_pos h.1, headers, arguments, h.2]
  rfl

theorem queriesOf_of_reads {chunk : List String} (h : a.Reads "queries" ⟨chunk, []⟩) :
    queriesOf a = chunk.mapM queryLine := by
  rw [queriesOf, if_pos h.1, queries, arguments, h.2]
  rfl

end Helper

namespace Kind

variable {α β : Type} {k : Kind} {read : Attribute → Except AnnotationError α} {a : Attribute}
  {parts : List Attribute} {name : String}

/-- Attributes of other kinds may be replaced by one another. -/
theorem makes_of_hasName {join : List α → β} {x : β} (hname : ofName? name ≠ some k)
    (ha : a.hasName name = true) (hparts : ∀ b ∈ parts, b.hasName name = true)
    (h : k.Makes read join [a] x) : k.Makes read join parts x := by
  refine (makes_congr ?_).mp h
  rw [among_eq_nil (List.forall_mem_singleton.mpr (Attribute.kind?_of_hasName ha ▸ hname)),
    among_eq_nil fun b hb => Attribute.kind?_of_hasName (hparts b hb) ▸ hname]

/-- A list of lines says what its parts say. -/
theorem makes_flatten_of_chunks {read : Attribute → Except AnnotationError (List α)}
    {line : String → Except AnnotationError α} {chunks : List (List String)} {x : List α}
    (hname : ofName? name = some k)
    (hread : ∀ {b chunk}, b.Reads name ⟨chunk, []⟩ → read b = chunk.mapM line)
    (ha : a.Reads name ⟨chunks.flatten, []⟩)
    (hparts : List.Forall₂ (fun b chunk => b.Reads name ⟨chunk, []⟩) parts chunks)
    (h : k.Makes read List.flatten [a] x) : k.Makes read List.flatten parts x := by
  have hnames := (List.forall₂_and_left _ _).mp hparts
  obtain ⟨said, hsaid, rfl⟩ :=
    (makes_singleton_iff ((Attribute.kind?_of_hasName ha.1).trans hname)).mp h
  rw [hread ha] at hsaid
  obtain ⟨lists, hlists, rfl⟩ := exists_mapM_of_mapM_flatten hsaid
  refine ⟨lists, ?_, by simp⟩
  rw [among_eq_self fun b hb => (Attribute.kind?_of_hasName (hnames.1 b hb)).trans hname, ← hlists]
  exact mapM_eq_of_forall₂ (hparts.imp fun b chunk hb => hread hb)

end Kind

namespace Rust.Attribute.SplitsInto

variable {a : Attribute} {parts : List Attribute}

/-- An attribute and its parts have one name. -/
theorem exists_hasName (h : a.SplitsInto parts) :
    ∃ name ∈ ["headers", "queries", "timeout"],
      a.hasName name = true ∧ ∀ b ∈ parts, b.hasName name = true := by
  cases h with
  | @lines name hname chunks parts ha hparts =>
      refine ⟨name, ?_, ha.1, ((List.forall₂_and_left _ _).mp hparts).1⟩
      rcases hname with rfl | rfl <;> decide
  | times ha hkeys hparts =>
      exact ⟨"timeout", by decide, ha.1, ((List.forall₂_and_left _ _).mp hparts).1⟩

/-- Whether a trait is a client is not told by attributes that can be split. -/
theorem any_hasName_client (h : a.SplitsInto parts) (before after : List Attribute) :
    ((before ++ parts ++ after).any fun b => b.hasName "client") =
      (before ++ a :: after).any fun b => b.hasName "client" := by
  obtain ⟨name, hmem, ha, hparts⟩ := h.exists_hasName
  have hname : name ≠ "client" := by
    rintro rfl
    exact absurd hmem (by decide)
  have hno : ∀ b : Attribute, b.hasName name = true → b.hasName "client" = false := fun b hb =>
    (hasName_eq_of_name? (name?_eq_some_iff.mpr hb) _).trans (beq_eq_false_iff_ne.mpr hname)
  have hany : (parts.any fun b => b.hasName "client") = false :=
    List.any_eq_false.mpr fun b hb => by simp [hno b (hparts b hb)]
  rw [List.any_append, List.any_append, List.any_append, List.any_cons, hany, hno a ha,
    Bool.or_false, Bool.false_or]

/-! No reading tells an attribute from its parts. -/

theorem makes_routes (h : a.SplitsInto parts) {x : List Route}
    (hx : Kind.route.Makes Helper.routeOf id [a] x) :
    Kind.route.Makes Helper.routeOf id parts x := by
  obtain ⟨name, hmem, ha, hparts⟩ := h.exists_hasName
  have hname : ∀ name ∈ ["headers", "queries", "timeout"], Kind.ofName? name ≠ some .route := by
    decide
  exact Kind.makes_of_hasName (hname name hmem) ha hparts hx

theorem makes_flatten (h : a.SplitsInto parts) {α : Type} {k : Kind} {name : String}
    {read : Attribute → Except AnnotationError (List α)}
    {line : String → Except AnnotationError α}
    (hname : ∀ other ∈ ["headers", "queries", "timeout"],
      Kind.ofName? other = some k ↔ other = name ∧ other ≠ "timeout")
    (hread : ∀ {b chunk}, b.Reads name ⟨chunk, []⟩ → read b = chunk.mapM line) {x : List α}
    (hx : k.Makes read List.flatten [a] x) : k.Makes read List.flatten parts x := by
  cases h with
  | @lines other hother chunks parts ha hparts =>
      have hmem : other ∈ ["headers", "queries", "timeout"] := by
        rcases hother with rfl | rfl <;> decide
      by_cases hk : Kind.ofName? other = some k
      · obtain ⟨rfl, -⟩ := (hname other hmem).mp hk
        exact Kind.makes_flatten_of_chunks hk hread ha hparts hx
      · exact Kind.makes_of_hasName hk ha.1 ((List.forall₂_and_left _ _).mp hparts).1 hx
  | times ha hkeys hparts =>
      have hk : Kind.ofName? "timeout" ≠ some k := fun h => ((hname _ (by decide)).mp h).2 rfl
      exact Kind.makes_of_hasName hk ha.1 ((List.forall₂_and_left _ _).mp hparts).1 hx

theorem makes_headers (h : a.SplitsInto parts) {x : List Header}
    (hx : Kind.header.Makes Helper.headersOf List.flatten [a] x) :
    Kind.header.Makes Helper.headersOf List.flatten parts x :=
  h.makes_flatten (by decide) Helper.headersOf_of_reads hx

theorem makes_queries (h : a.SplitsInto parts) {x : List QueryItem}
    (hx : Kind.query.Makes Helper.queriesOf List.flatten [a] x) :
    Kind.query.Makes Helper.queriesOf List.flatten parts x :=
  h.makes_flatten (by decide) Helper.queriesOf_of_reads hx

theorem makes_timeouts (h : a.SplitsInto parts) {x : Timeouts}
    (hx : Kind.timeout.Makes Helper.timeouts (List.foldl Timeouts.merge .unset) [a] x) :
    Kind.timeout.Makes Helper.timeouts (List.foldl Timeouts.merge .unset) parts x := by
  cases h with
  | @lines name hname chunks parts ha hparts =>
      refine Kind.makes_of_hasName ?_ ha.1 ((List.forall₂_and_left _ _).mp hparts).1 hx
      rcases hname with rfl | rfl <;> decide
  | @times args keys parts ha hkeys hparts =>
      have hnames := ((List.forall₂_and_left _ _).mp hparts).1
      obtain ⟨t, ht, rfl⟩ :=
        (Kind.makes_singleton_iff (k := .timeout) (Attribute.kind?_of_hasName ha.1)).mp hx
      refine ⟨keys.map fun key => t.restrict [key], ?_, ?_⟩
      · rw [Kind.among_eq_self fun b hb => Attribute.kind?_of_hasName (hnames b hb)]
        refine (mapM_eq_of_forall₂ (hparts.imp fun b key hb => ?_)).trans List.mapM_pure
        exact Helper.timeouts_of_under ha.2 hb.2 ht
      · rw [Timeouts.foldl_merge_restrict, Helper.restrict_of_timeouts ha.2 hkeys ht]
        simp

end Rust.Attribute.SplitsInto

section Replace

variable {as bs before after parts : List Attribute} {a : Attribute}

theorem Shared.IsReadFrom.of_among_eq {s : Shared} (h : s.IsReadFrom as)
    (hheader : Kind.header.among bs = Kind.header.among as)
    (htimeout : Kind.timeout.among bs = Kind.timeout.among as) : s.IsReadFrom bs where
  headers := (Kind.makes_congr hheader).mpr h.headers
  timeouts := (Kind.makes_congr htimeout).mpr h.timeouts

theorem Additions.AreReadFrom.of_among_eq {x : Additions} (h : x.AreReadFrom as)
    (hamong : ∀ k : Kind, k.among bs = k.among as) : x.AreReadFrom bs where
  shared := h.shared.of_among_eq (hamong .header) (hamong .timeout)
  routes := (Kind.makes_congr (hamong .route)).mpr h.routes
  queries := (Kind.makes_congr (hamong .query)).mpr h.queries

theorem Shared.IsReadFrom.of_splitsInto {s : Shared} (h : s.IsReadFrom (before ++ a :: after))
    (hsplit : a.SplitsInto parts) : s.IsReadFrom (before ++ parts ++ after) := by
  rw [List.append_cons, isReadFrom_append_iff] at h
  obtain ⟨_, y, hfront, hy, rfl⟩ := h
  obtain ⟨x, z, hx, hz, rfl⟩ := isReadFrom_append_iff.mp hfront
  have hparts : z.IsReadFrom parts :=
    ⟨hsplit.makes_headers hz.headers, hsplit.makes_timeouts hz.timeouts⟩
  exact isReadFrom_append_iff.mpr
    ⟨_, y, isReadFrom_append_iff.mpr ⟨x, z, hx, hparts, rfl⟩, hy, rfl⟩

theorem Additions.AreReadFrom.of_splitsInto {x : Additions}
    (h : x.AreReadFrom (before ++ a :: after)) (hsplit : a.SplitsInto parts) :
    x.AreReadFrom (before ++ parts ++ after) := by
  rw [List.append_cons, areReadFrom_append_iff] at h
  obtain ⟨_, y, hfront, hy, rfl⟩ := h
  obtain ⟨x, z, hx, hz, rfl⟩ := areReadFrom_append_iff.mp hfront
  have hparts : z.AreReadFrom parts :=
    ⟨⟨hsplit.makes_headers hz.shared.headers, hsplit.makes_timeouts hz.shared.timeouts⟩,
      hsplit.makes_routes hz.routes, hsplit.makes_queries hz.queries⟩
  exact areReadFrom_append_iff.mpr
    ⟨_, y, areReadFrom_append_iff.mpr ⟨x, z, hx, hparts, rfl⟩, hy, rfl⟩

end Replace

/-- **Attributes by kind.** Routes, headers and query items are declared in source order, and of the
timeouts later ones override earlier ones. The declaration of a method is the same for all lists of
attributes with the same ones of each kind in the same order, however the kinds are mixed and
whatever stands between them that is not read. It is the same, too, if an attribute is replaced by
those it splits into. So it is for a trait, of which headers and timeouts are read, and whether it
is marked as a client. -/
theorem attributes_read_by_kind :
    (∀ (f : Function) (m : Method), Method.ofFunction f = .ok m →
      m.additions.AreReadFrom f.attributes ∧
      (∀ attributes, (∀ k : Kind, k.among attributes = k.among f.attributes) →
        Method.ofFunction { f with attributes := attributes } = .ok m) ∧
      ∀ before a after parts, f.attributes = before ++ a :: after → a.SplitsInto parts →
        Method.ofFunction { f with attributes := before ++ parts ++ after } = .ok m) ∧
    ∀ (t : Trait) (i : Interface), Interface.ofTrait t = .ok i →
      i.settings.IsReadFrom t.attributes ∧
      (∀ attributes, Kind.header.among attributes = Kind.header.among t.attributes →
        Kind.timeout.among attributes = Kind.timeout.among t.attributes →
        ((attributes.any fun a => a.hasName "client") =
          t.attributes.any fun a => a.hasName "client") →
        Interface.ofTrait { t with attributes := attributes } = .ok i) ∧
      ∀ before a after parts, t.attributes = before ++ a :: after → a.SplitsInto parts →
        Interface.ofTrait { t with attributes := before ++ parts ++ after } = .ok i := by
  constructor
  · intro f m h
    obtain ⟨hname, hasync, hparams, hread⟩ := Method.ofFunction_eq_ok_iff.mp h
    refine ⟨hread, fun attributes hamong => ?_, fun before a after parts hf hsplit => ?_⟩
    · exact Method.ofFunction_eq_ok_iff.mpr ⟨hname, hasync, hparams, hread.of_among_eq hamong⟩
    · rw [hf] at hread
      exact Method.ofFunction_eq_ok_iff.mpr ⟨hname, hasync, hparams, hread.of_splitsInto hsplit⟩
  · intro t i h
    obtain ⟨hname, hclient, hparents, hmethods, hread⟩ := Interface.ofTrait_eq_ok_iff.mp h
    refine ⟨hread, fun attributes hheader htimeout hsame => ?_,
      fun before a after parts ht hsplit => ?_⟩
    · exact Interface.ofTrait_eq_ok_iff.mpr ⟨hname, hclient.trans hsame.symm, hparents, hmethods,
        hread.of_among_eq hheader htimeout⟩
    · rw [ht] at hread hclient
      exact Interface.ofTrait_eq_ok_iff.mpr ⟨hname,
        hclient.trans (hsplit.any_hasName_client before after).symm, hparents, hmethods,
        hread.of_splitsInto hsplit⟩

/-- Two headers in one attribute: `#[headers("A: 1", "B: 2")]`. -/
def listedHeaders : Attribute :=
  ⟨false, ["headers"], .tokens [.literal ⟨"\"A: 1\"", .string "A: 1"⟩, .punct ',' false,
    .literal ⟨"\"B: 2\"", .string "B: 2"⟩]⟩

/-- An attribute `headers` with a single line. -/
def lineHeaders (line : String) : Attribute :=
  ⟨false, ["headers"], .tokens [.literal ⟨"\"" ++ line ++ "\"", .string line⟩]⟩

/-- Two times in one attribute: `#[timeout(connect = 1, request = 2)]`. -/
def listedTimes : Attribute :=
  ⟨false, ["timeout"], .tokens
    [.ident "connect", .punct '=' false, .literal ⟨"1", .integer 1⟩, .punct ',' false,
      .ident "request", .punct '=' false, .literal ⟨"2", .integer 2⟩]⟩

/-- The arguments of these times. -/
def listedArguments : Arguments :=
  ⟨[], [("connect", .literal ⟨"1", .integer 1⟩), ("request", .literal ⟨"2", .integer 2⟩)]⟩

/-- An attribute `timeout` with a single time. -/
def singleTime (key text : String) (n : Nat) : Attribute :=
  ⟨false, ["timeout"], .tokens [.ident key, .punct '=' false, .literal ⟨text, .integer n⟩]⟩

/-- A route: `#[get("/a")]`. -/
def plainGet : Attribute :=
  ⟨false, ["get"], .tokens [.literal ⟨"\"/a\"", .string "/a"⟩]⟩

/-- A method with attributes of three kinds. -/
def listedFunction : Function :=
  ⟨[listedHeaders, plainGet, listedTimes], "find", true, [], none⟩

/-- The declaration of the method. -/
def listedMethod : Method :=
  ⟨"find", true, [], [⟨.get, "/a", true⟩], [⟨"A", "1"⟩, ⟨"B", "2"⟩], [], ⟨some 1, some 2, none⟩⟩

/-- A trait with two of these attributes. -/
def listedTrait : Trait :=
  ⟨[listedHeaders, listedTimes], true, "Api", [], []⟩

/-- The declaration of the trait. -/
def listedInterface : Interface :=
  ⟨"Api", false, [⟨"A", "1"⟩, ⟨"B", "2"⟩], ⟨some 1, some 2, none⟩, [], []⟩

/-- The headers one by one, the kinds in another order with a foreign attribute between them, and
the times one by one. -/
theorem attributes_read_by_kind_listed :
    Method.ofFunction listedFunction = .ok listedMethod ∧
    Method.ofFunction { listedFunction with
      attributes := [lineHeaders "A: 1", lineHeaders "B: 2", plainGet, listedTimes] } =
        .ok listedMethod ∧
    Method.ofFunction { listedFunction with
      attributes := [listedTimes, ⟨false, ["doc"], .value⟩, listedHeaders, plainGet] } =
        .ok listedMethod ∧
    Interface.ofTrait { listedTrait with
      attributes := [listedHeaders, singleTime "request" "2" 2, singleTime "connect" "1" 1] } =
        .ok listedInterface := by
  have hmethod : Method.ofFunction listedFunction = .ok listedMethod := rfl
  have hinterface : Interface.ofTrait listedTrait = .ok listedInterface := rfl
  have hheaders : listedHeaders.Reads "headers" ⟨List.flatten [["A: 1"], ["B: 2"]], []⟩ :=
    ⟨by decide, rfl⟩
  have hlines : listedHeaders.SplitsInto [lineHeaders "A: 1", lineHeaders "B: 2"] :=
    .lines (.inl rfl) hheaders (.cons ⟨by decide, rfl⟩ (.cons ⟨by decide, rfl⟩ .nil))
  have hread : listedTimes.Reads "timeout" listedArguments := ⟨by decide, rfl⟩
  have hkeys : ∀ pair ∈ listedArguments.named, pair.1 ∈ ["request", "connect"] := by decide
  have htimes : listedTimes.SplitsInto [singleTime "request" "2" 2, singleTime "connect" "1" 1] :=
    .times hread hkeys (.cons ⟨by decide, rfl⟩ (.cons ⟨by decide, rfl⟩ .nil))
  obtain ⟨hfunctions, htraits⟩ := attributes_read_by_kind
  obtain ⟨-, hamong, hsplit⟩ := hfunctions listedFunction listedMethod hmethod
  obtain ⟨-, -, hsplitTrait⟩ := htraits listedTrait listedInterface hinterface
  refine ⟨hmethod, hsplit [] listedHeaders [plainGet, listedTimes] _ rfl hlines, ?_,
    hsplitTrait [listedHeaders] listedTimes [] _ rfl htimes⟩
  exact hamong _ fun k => by cases k <;> rfl

end ClientTraits
