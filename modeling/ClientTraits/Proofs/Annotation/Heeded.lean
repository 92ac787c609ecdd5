import ClientTraits.Proofs.Annotation.Integers
import ClientTraits.Proofs.Annotation.Spelling

/-!
# The arguments that count

A helper attribute takes strings in slots, by position or by name, or lines, or integers under keys.
What it says holds every argument that counts: the strings by position up to the last slot, unless
the slot has a name among the arguments, and the first value under each name
(`arguments_that_count_are_held`). The other arguments are passed over. They are no reason to refuse
the attribute, and whatever they say makes no difference.

## Proof shape

`Helper.Reads` tells for each reader which slots and keys it looks up and what it makes of them.
What is read was read so from arguments with known names (`Helper.Reader.exists_reads_of_read`), and
such arguments are read (`Helper.Reader.read_of_reads`). What is found in a slot depends only on the
first value under its name and on the string at its position (`Arguments.string?_congr`).
-/

namespace ClientTraits

open Rust

section Except

variable {α β ε ε' : Type}

theorem mapError_eq_ok_iff {x : Except ε α} {f : ε → ε'} {a : α} :
    x.mapError f = .ok a ↔ x = .ok a := by
  cases x <;> simp [Except.mapError]

/-- Each item of a traversal has its result, at the same position. -/
theorem exists_getElem?_of_mapM {f : β → Except ε α} {items : List β} {results : List α}
    (h : items.mapM f = .ok results) {position : Nat} {b : β} (hb : items[position]? = some b) :
    ∃ a, results[position]? = some a ∧ f b = .ok a := by
  induction items generalizing position results with
  | nil => cases hb
  | cons b' rest ih =>
      obtain ⟨a, more, ha, hmore, rfl⟩ := mapM_cons_eq_ok_iff.mp h
      cases position with
      | zero =>
          cases hb
          exact ⟨a, rfl, ha⟩
      | succ position => exact ih hmore hb

end Except

/-! ### Looking up -/

namespace Arguments

variable {args args' : Arguments} {position : Nat} {key form s : String}

theorem string_eq_ok_iff :
    args.string position key form = .ok s ↔ args.string? position key = .ok (some s) := by
  rw [string, bind_eq_ok_iff]
  constructor
  · intro h
    obtain ⟨found, hfound, h⟩ := h
    cases found with
    | none => cases h
    | some s' =>
        cases h
        exact hfound
  · intro h
    exact ⟨some s, h, rfl⟩

/-- Without a value under its name, a slot has the string at its position. -/
theorem string?_of_value?_eq_none (h : args.value? key = Option.none) :
    args.string? position key = .ok args.positional[position]? := by
  rw [string?, h]

/-- The value under the name of a slot is a string, and it is the string of the slot. -/
theorem exists_string_of_value? {e : Expr} (h : args.value? key = some e) {found : Option String}
    (hfound : args.string? position key = .ok found) :
    ∃ text s, e = .literal ⟨text, .string s⟩ ∧ found = some s := by
  rw [string?, h] at hfound
  split at hfound
  · next text s heq =>
      cases heq
      cases hfound
      exact ⟨text, s, rfl, rfl⟩
  · cases hfound
  · next heq => cases heq

theorem string?_congr (hvalue : args'.value? key = args.value? key)
    (hposition : args.value? key = Option.none →
      args'.positional[position]? = args.positional[position]?) :
    args'.string? position key = args.string? position key := by
  rw [string?, string?, hvalue]
  split
  · rfl
  · rfl
  · next hnone => rw [hposition hnone]

theorem integer?_congr (hvalue : args'.value? key = args.value? key) :
    args'.integer? key = args.integer? key := by
  rw [integer?, integer?, hvalue]

/-- The first value under a name is the one that is found. -/
theorem value?_of_first {before after : List (String × Expr)} {e : Expr}
    (hnamed : args.named = before ++ (key, e) :: after) (hkey : key ∉ before.map Prod.fst) :
    args.value? key = some e := by
  have hbefore : before.find? (fun pair => pair.1 == key) = Option.none := by
    rw [List.find?_eq_none]
    intro pair hpair heq
    exact hkey (beq_iff_eq.mp heq ▸ List.mem_map_of_mem hpair)
  rw [value?, hnamed, List.find?_append, hbefore]
  simp

end Arguments

/-! ### Readers -/

namespace Helper

theorem arguments_eq_ok_iff {a : Attribute} {known : List String} {args : Arguments} :
    arguments a known = .ok args ↔
      Arguments.ofAttribute a = .ok args ∧ ∀ pair ∈ args.named, pair.1 ∈ known := by
  rw [arguments, bind_eq_ok_iff]
  constructor
  · intro h
    obtain ⟨args', hargs, h⟩ := h
    obtain ⟨_, hknown, h⟩ := bind_eq_ok_iff.mp h
    cases h
    exact ⟨hargs, Arguments.expectNames_eq_ok_iff.mp hknown⟩
  · intro h
    refine ⟨args, h.1, ?_⟩
    rw [Arguments.expectNames_eq_ok_iff.mpr h.2]
    rfl

/-- The ways to read a helper attribute. -/
inductive Reader
  | genericRoute
  | shorthandRoute (verb : Verb)
  | header
  | headers
  | query
  | queries
  | timeouts
  | rename
  | binding
  | payloadMark
  deriving DecidableEq, Repr

/-- What a helper attribute says. -/
inductive Element
  | route (r : Route)
  | header (h : Header)
  | headers (lines : List Header)
  | query (q : QueryItem)
  | queries (lines : List QueryItem)
  | timeouts (t : Timeouts)
  | rename (placeholder : String)
  | binding (b : Binding)
  | payloadMark (mark : PayloadMark)
  deriving DecidableEq, Repr

namespace Reader

/-- What an attribute says if it is read in this way. -/
def read : Reader → Attribute → Except AnnotationError Element
  | genericRoute, a => .route <$> Helper.genericRoute a
  | shorthandRoute verb, a => .route <$> Helper.shorthandRoute verb a
  | header, a => .header <$> Helper.header a
  | headers, a => .headers <$> Helper.headers a
  | query, a => .query <$> Helper.query a
  | queries, a => .queries <$> Helper.queries a
  | timeouts, a => .timeouts <$> Helper.timeouts a
  | rename, a => .rename <$> Helper.rename a
  | binding, a => .binding <$> Helper.binding a
  | payloadMark, a => .payloadMark <$> Helper.payloadMark a

/-- The slots for strings, by position. -/
def slots : Reader → List String
  | genericRoute => ["method", "url"]
  | shorthandRoute _ => ["url"]
  | header => ["name", "value"]
  | query => ["name", "value"]
  | rename => ["name"]
  | binding => ["name"]
  | payloadMark => ["content_type"]
  | headers => []
  | queries => []
  | timeouts => []

/-- The names that an argument may have. -/
def keys : Reader → List String
  | timeouts => ["connect", "request", "socket"]
  | r => r.slots

/-- All strings by position are lines of a list. -/
def takesLines : Reader → Bool
  | headers => true
  | queries => true
  | _ => false

end Reader

/-- What a reader looks up among arguments, and what it makes of it. -/
inductive Reads (args : Arguments) : Reader → Element → Prop
  | genericRoute {verb url : String} (hverb : args.string? 0 "method" = .ok (some verb))
      (hurl : args.string? 1 "url" = .ok (some url)) (hne : verb ≠ "") :
      Reads args .genericRoute (.route ⟨.ofToken verb, url, false⟩)
  | shorthandRoute {verb : Verb} {url : String} (hurl : args.string? 0 "url" = .ok (some url)) :
      Reads args (.shorthandRoute verb) (.route ⟨verb, url, true⟩)
  | header {name value : String} (hname : args.string? 0 "name" = .ok (some name))
      (hvalue : args.string? 1 "value" = .ok (some value)) :
      Reads args .header (.header ⟨name, value⟩)
  | headers {lines : List Header} (hlines : args.positional.mapM headerLine = .ok lines) :
      Reads args .headers (.headers lines)
  | query {name value : String} (hname : args.string? 0 "name" = .ok (some name))
      (hvalue : args.string? 1 "value" = .ok (some value)) :
      Reads args .query (.query (.fixed name value))
  | queries {lines : List QueryItem} (hlines : args.positional.mapM queryLine = .ok lines) :
      Reads args .queries (.queries lines)
  | timeouts {connect request socket : Option Int}
      (hconnect : args.integer? "connect" = .ok connect)
      (hrequest : args.integer? "request" = .ok request)
      (hsocket : args.integer? "socket" = .ok socket) :
      Reads args .timeouts
        (.timeouts (.ofInts (connect.getD (-1)) (request.getD (-1)) (socket.getD (-1))))
  | rename {placeholder : String} (hname : args.string? 0 "name" = .ok (some placeholder)) :
      Reads args .rename (.rename placeholder)
  | binding {name : Option String} (hname : args.string? 0 "name" = .ok name) :
      Reads args .binding (.binding ⟨name⟩)
  | payloadMark {contentType : Option String}
      (htype : args.string? 0 "content_type" = .ok contentType) :
      Reads args .payloadMark (.payloadMark ⟨contentType⟩)

namespace Reader

variable {r : Reader} {a : Attribute} {x : Element} {args args' : Arguments}

/-- What is read was read from arguments with known names. -/
theorem exists_reads_of_read (h : r.read a = .ok x) :
    ∃ args, arguments a r.keys = .ok args ∧ Reads args r x := by
  cases r
  all_goals
    simp only [read, Helper.genericRoute, Helper.shorthandRoute, Helper.header, Helper.headers,
      Helper.query, Helper.queries, Helper.timeouts, Helper.rename, Helper.binding,
      Helper.payloadMark, map_eq_ok_iff, bind_eq_ok_iff, Arguments.string_eq_ok_iff] at h
  case genericRoute =>
    obtain ⟨_, ⟨args, hargs, verb, hverb, url, hurl, h⟩, rfl⟩ := h
    split at h
    · cases h
    · next hne =>
        cases h
        exact ⟨args, hargs, .genericRoute hverb hurl (by simpa using hne)⟩
  case shorthandRoute =>
    obtain ⟨_, ⟨args, hargs, url, hurl, h⟩, rfl⟩ := h
    cases h
    exact ⟨args, hargs, .shorthandRoute hurl⟩
  case header =>
    obtain ⟨_, ⟨args, hargs, name, hname, value, hvalue, h⟩, rfl⟩ := h
    cases h
    exact ⟨args, hargs, .header hname hvalue⟩
  case headers =>
    obtain ⟨lines, ⟨args, hargs, hlines⟩, rfl⟩ := h
    exact ⟨args, hargs, .headers hlines⟩
  case query =>
    obtain ⟨_, ⟨args, hargs, name, hname, value, hvalue, h⟩, rfl⟩ := h
    cases h
    exact ⟨args, hargs, .query hname hvalue⟩
  case queries =>
    obtain ⟨lines, ⟨args, hargs, hlines⟩, rfl⟩ := h
    exact ⟨args, hargs, .queries hlines⟩
  case timeouts =>
    obtain ⟨_, ⟨args, hargs, _, hconnect, _, hrequest, _, hsocket, h⟩, rfl⟩ := h
    cases h
    exact ⟨args, hargs, .timeouts hconnect hrequest hsocket⟩
  case rename =>
    obtain ⟨placeholder, ⟨args, hargs, hname⟩, rfl⟩ := h
    exact ⟨args, hargs, .rename hname⟩
  case binding =>
    obtain ⟨_, ⟨args, hargs, name, hname, h⟩, rfl⟩ := h
    cases h
    exact ⟨args, hargs, .binding hname⟩
  case payloadMark =>
    obtain ⟨_, ⟨args, hargs, contentType, htype, h⟩, rfl⟩ := h
    cases h
    exact ⟨args, hargs, .payloadMark htype⟩

/-- What can be read from arguments with known names is read. -/
theorem read_of_reads (hargs : arguments a r.keys = .ok args) (h : Reads args r x) :
    r.read a = .ok x := by
  cases h
  all_goals
    simp only [read, Helper.genericRoute, Helper.shorthandRoute, Helper.header, Helper.headers,
      Helper.query, Helper.queries, Helper.timeouts, Helper.rename, Helper.binding,
      Helper.payloadMark, map_eq_ok_iff, bind_eq_ok_iff, Arguments.string_eq_ok_iff]
  case genericRoute verb url hverb hurl hne =>
    have hverb' : ¬ verb.isEmpty = true := by simpa using hne
    exact ⟨_, ⟨args, hargs, verb, hverb, url, hurl, if_neg hverb'⟩, rfl⟩
  case shorthandRoute url hurl => exact ⟨_, ⟨args, hargs, url, hurl, rfl⟩, rfl⟩
  case header name value hname hvalue =>
    exact ⟨_, ⟨args, hargs, name, hname, value, hvalue, rfl⟩, rfl⟩
  case headers lines hlines => exact ⟨lines, ⟨args, hargs, hlines⟩, rfl⟩
  case query name value hname hvalue =>
    exact ⟨_, ⟨args, hargs, name, hname, value, hvalue, rfl⟩, rfl⟩
  case queries lines hlines => exact ⟨lines, ⟨args, hargs, hlines⟩, rfl⟩
  case timeouts connect request socket hconnect hrequest hsocket =>
    exact ⟨_, ⟨args, hargs, connect, hconnect, request, hrequest, socket, hsocket, rfl⟩, rfl⟩
  case rename placeholder hname => exact ⟨placeholder, ⟨args, hargs, hname⟩, rfl⟩
  case binding name hname => exact ⟨_, ⟨args, hargs, name, hname, rfl⟩, rfl⟩
  case payloadMark contentType htype => exact ⟨_, ⟨args, hargs, contentType, htype, rfl⟩, rfl⟩

end Reader

/-! ### What an element holds -/

namespace Element

/-- The string that an element has in a slot. -/
def string? : Element → String → Option String
  | route r, "method" => some r.verb.token
  | route r, "url" => some r.template
  | header h, "name" => some h.name
  | header h, "value" => some h.value
  | query (.fixed name _), "name" => some name
  | query (.fixed _ value), "value" => some value
  | rename placeholder, "name" => some placeholder
  | binding b, "name" => b.name
  | payloadMark mark, "content_type" => mark.contentType
  | _, _ => none

/-- The time that an element has under a key. -/
def time? : Element → String → Option (Option Nat)
  | timeouts t, key => t.fields.lookup key
  | _, _ => none

/-- The element has the string by this position: in its slot, or as a line. -/
def HoldsAt (slots : List String) (position : Nat) (s : String) : Element → Prop
  | headers lines => ∃ h, lines[position]? = some h ∧ Header.ofLine s = .ok h
  | queries lines => ∃ q, lines[position]? = some q ∧ QueryItem.ofLine s = .ok q
  | x => ∃ key, slots[position]? = some key ∧ x.string? key = some s

/-- The element has the value under this key: a string in its slot, or the time that an integer
stands for. -/
def HoldsUnder (x : Element) (key : String) (e : Expr) : Prop :=
  (∃ text s, e = .literal ⟨text, .string s⟩ ∧ x.string? key = some s) ∨
    ∃ v, Arguments.integerValue e = .ok v ∧ x.time? key = some (Timeouts.timeOfInt v)

end Element

/-- The string at a position counts: as a line, or because its slot has no name among the
arguments. -/
def Reader.Heeds (r : Reader) (args : Arguments) (position : Nat) : Prop :=
  r.takesLines = true ∨
    ∃ key, r.slots[position]? = some key ∧ key ∉ args.named.map Prod.fst

/-- The second arguments have known names, and all that counts of the first ones. -/
structure Reader.Agree (r : Reader) (args args' : Arguments) : Prop where
  known : ∀ pair ∈ args'.named, pair.1 ∈ r.keys
  values : ∀ key, args'.value? key = args.value? key
  strings : ∀ (position : Nat) (key : String), r.slots[position]? = some key →
    key ∉ args.named.map Prod.fst → args'.positional[position]? = args.positional[position]?
  lines : r.takesLines = true → args'.positional = args.positional

namespace Reads

variable {r : Reader} {x : Element} {args args' : Arguments}

/-- Each slot of the element has what the arguments have for the slot. -/
theorem string?_eq (h : Reads args r x) {position : Nat} {key : String}
    (hkey : r.slots[position]? = some key) : args.string? position key = .ok (x.string? key) := by
  have hone : ∀ {a : String}, [a][position]? = some key → position = 0 ∧ a = key := by
    intro a h
    rcases position with _ | position <;> simp_all
  have htwo : ∀ {a b : String}, [a, b][position]? = some key →
      position = 0 ∧ a = key ∨ position = 1 ∧ b = key := by
    intro a b h
    rcases position with _ | _ | position <;> simp_all
  cases h with
  | genericRoute hverb hurl hne =>
      obtain ⟨rfl, rfl⟩ | ⟨rfl, rfl⟩ := htwo hkey
      · rw [hverb, Element.string?, Verb.token_ofToken]
      · exact hurl
  | shorthandRoute hurl =>
      obtain ⟨rfl, rfl⟩ := hone hkey
      exact hurl
  | header hname hvalue =>
      obtain ⟨rfl, rfl⟩ | ⟨rfl, rfl⟩ := htwo hkey
      · exact hname
      · exact hvalue
  | query hname hvalue =>
      obtain ⟨rfl, rfl⟩ | ⟨rfl, rfl⟩ := htwo hkey
      · exact hname
      · exact hvalue
  | rename hname =>
      obtain ⟨rfl, rfl⟩ := hone hkey
      exact hname
  | binding hname =>
      obtain ⟨rfl, rfl⟩ := hone hkey
      exact hname
  | payloadMark htype =>
      obtain ⟨rfl, rfl⟩ := hone hkey
      exact htype
  | headers _ => simp [Reader.slots] at hkey
  | queries _ => simp [Reader.slots] at hkey
  | timeouts _ _ _ => simp [Reader.slots] at hkey

/-- Nothing but the slots, the values under their names and the lines is looked up. -/
theorem congr (h : Reads args r x) (hagree : r.Agree args args') : Reads args' r x := by
  have hslot : ∀ position key, r.slots[position]? = some key →
      args'.string? position key = args.string? position key := by
    intro position key hkey
    refine Arguments.string?_congr (hagree.values key) fun hnone => ?_
    exact hagree.strings position key hkey (Arguments.value?_eq_none_iff.mp hnone)
  have htime : ∀ key, args'.integer? key = args.integer? key := fun key =>
    Arguments.integer?_congr (hagree.values key)
  cases h with
  | genericRoute hverb hurl hne =>
      exact .genericRoute ((hslot 0 "method" rfl).trans hverb) ((hslot 1 "url" rfl).trans hurl) hne
  | shorthandRoute hurl => exact .shorthandRoute ((hslot 0 "url" rfl).trans hurl)
  | header hname hvalue =>
      exact .header ((hslot 0 "name" rfl).trans hname) ((hslot 1 "value" rfl).trans hvalue)
  | headers hlines => exact .headers (by rw [hagree.lines rfl, hlines])
  | query hname hvalue =>
      exact .query ((hslot 0 "name" rfl).trans hname) ((hslot 1 "value" rfl).trans hvalue)
  | queries hlines => exact .queries (by rw [hagree.lines rfl, hlines])
  | timeouts hconnect hrequest hsocket =>
      exact .timeouts ((htime _).trans hconnect) ((htime _).trans hrequest)
        ((htime _).trans hsocket)
  | rename hname => exact .rename ((hslot 0 "name" rfl).trans hname)
  | binding hname => exact .binding ((hslot 0 "name" rfl).trans hname)
  | payloadMark htype => exact .payloadMark ((hslot 0 "content_type" rfl).trans htype)

/-- A string by position that counts is in the element. -/
theorem holdsAt (h : Reads args r x) {position : Nat} {s : String}
    (hs : args.positional[position]? = some s) (hheeds : r.Heeds args position) :
    x.HoldsAt r.slots position s := by
  rcases hheeds with hlines | ⟨key, hkey, hno⟩
  · -- Only lists of lines take lines.
    cases h with
    | headers hread =>
        obtain ⟨h, hh, hline⟩ := exists_getElem?_of_mapM hread hs
        exact ⟨h, hh, mapError_eq_ok_iff.mp hline⟩
    | queries hread =>
        obtain ⟨q, hq, hline⟩ := exists_getElem?_of_mapM hread hs
        exact ⟨q, hq, mapError_eq_ok_iff.mp hline⟩
    | _ => cases hlines
  · have hstring : x.string? key = some s := by
      have hslot := h.string?_eq hkey
      rw [Arguments.string?_of_value?_eq_none (Arguments.value?_eq_none_iff.mpr hno), hs] at hslot
      exact (Except.ok.inj hslot).symm
    cases h with
    | headers _ => simp [Reader.slots] at hkey
    | queries _ => simp [Reader.slots] at hkey
    | _ => exact ⟨key, hkey, hstring⟩

/-- The first value under a name is in the element. -/
theorem holdsUnder (h : Reads args r x) {key : String} {e : Expr} (hkey : key ∈ r.keys)
    (he : args.value? key = some e) : x.HoldsUnder key e := by
  have hslot : key ∈ r.slots → x.HoldsUnder key e := by
    intro hmem
    obtain ⟨position, hposition⟩ := List.mem_iff_getElem?.mp hmem
    obtain ⟨text, s, rfl, hs⟩ := Arguments.exists_string_of_value? he (h.string?_eq hposition)
    exact .inl ⟨text, s, rfl, hs⟩
  cases h with
  | @timeouts connect request socket hconnect hrequest hsocket =>
      have hvalue : ∀ {v : Option Int}, args.integer? key = .ok v →
          ∃ n, v = some n ∧ Arguments.integerValue e = .ok n := by
        intro v hv
        rw [Arguments.integer?, he] at hv
        obtain ⟨n, hn, rfl⟩ := map_eq_ok_iff.mp hv
        exact ⟨n, rfl, hn⟩
      rcases hkey with _ | ⟨_, _ | ⟨_, _ | ⟨_, ⟨⟩⟩⟩⟩
      · obtain ⟨n, rfl, hn⟩ := hvalue hconnect
        exact .inr ⟨n, hn, rfl⟩
      · obtain ⟨n, rfl, hn⟩ := hvalue hrequest
        exact .inr ⟨n, hn, rfl⟩
      · obtain ⟨n, rfl, hn⟩ := hvalue hsocket
        exact .inr ⟨n, hn, rfl⟩
  | _ => exact hslot hkey

end Reads

end Helper

/-- **Arguments that count.** An attribute that is accepted has no names but those that its reader
knows. What it says holds each string by position whose slot has no name among the arguments, or
each string as a line, and the first value under each name. Nothing else makes a difference: any
attribute whose arguments agree in what counts says the same. -/
theorem arguments_that_count_are_held {r : Helper.Reader} {a : Attribute} {x : Helper.Element}
    (h : r.read a = .ok x) :
    ∃ args, Arguments.ofAttribute a = .ok args ∧
      (∀ pair ∈ args.named, pair.1 ∈ r.keys) ∧
      (∀ position s, args.positional[position]? = some s → r.Heeds args position →
        x.HoldsAt r.slots position s) ∧
      (∀ before key e after, args.named = before ++ (key, e) :: after →
        key ∉ before.map Prod.fst → x.HoldsUnder key e) ∧
      ∀ b args', Arguments.ofAttribute b = .ok args' → r.Agree args args' → r.read b = .ok x := by
  obtain ⟨args, hargs, hreads⟩ := Helper.Reader.exists_reads_of_read h
  obtain ⟨hargs, hknown⟩ := Helper.arguments_eq_ok_iff.mp hargs
  refine ⟨args, hargs, hknown, fun position s hs hheeds => hreads.holdsAt hs hheeds, ?_, ?_⟩
  · intro before key e after hnamed hfirst
    have hmem : (key, e) ∈ args.named := by simp [hnamed]
    exact hreads.holdsUnder (hknown _ hmem) (Arguments.value?_of_first hnamed hfirst)
  · intro b args' hb hagree
    exact Helper.Reader.read_of_reads (Helper.arguments_eq_ok_iff.mpr ⟨hb, hagree.known⟩)
      (hreads.congr hagree)

/-- A header with a string too many, and with two names besides the one by position. -/
def crowdedHeader : Attribute :=
  ⟨false, ["header"], .tokens
    [.literal ⟨"\"Accept\"", .string "Accept"⟩, .punct ',' false,
      .literal ⟨"\"text/html\"", .string "text/html"⟩, .punct ',' false,
      .literal ⟨"\"extra\"", .string "extra"⟩, .punct ',' false,
      .ident "name", .punct '=' false, .literal ⟨"\"X-A\"", .string "X-A"⟩, .punct ',' false,
      .ident "name", .punct '=' false, .literal ⟨"\"X-B\"", .string "X-B"⟩]⟩

/-- What is written in the header. -/
def crowdedArguments : Arguments :=
  ⟨["Accept", "text/html", "extra"],
    [("name", .literal ⟨"\"X-A\"", .string "X-A"⟩), ("name", .literal ⟨"\"X-B\"", .string "X-B"⟩)]⟩

theorem ofAttribute_crowdedHeader :
    Arguments.ofAttribute crowdedHeader = .ok crowdedArguments := by
  have hwrites : Arguments.Writes [.positional "Accept", .positional "text/html",
      .positional "extra", .named "name" (.literal ⟨"\"X-A\"", .string "X-A"⟩),
      .named "name" (.literal ⟨"\"X-B\"", .string "X-B"⟩)] crowdedHeader.input :=
    .tokens <|
      .cons (Arguments.WritesOne.positional _ _) false <|
      .cons (Arguments.WritesOne.positional _ _) false <|
      .cons (Arguments.WritesOne.positional _ _) false <|
      .cons (Arguments.WritesOne.named (by decide) false _) false <|
      .last (Arguments.WritesOne.named (by decide) false _)
  exact Arguments.ofAttribute_of_writes hwrites

theorem read_crowdedHeader :
    Helper.Reader.header.read crowdedHeader = .ok (.header ⟨"X-A", "text/html"⟩) := by
  have hreads : Helper.Reads crowdedArguments .header (.header ⟨"X-A", "text/html"⟩) :=
    .header (by decide) (by decide)
  have hknown : ∀ pair ∈ crowdedArguments.named, pair.1 ∈ Helper.Reader.header.keys := by decide
  exact Helper.Reader.read_of_reads
    (Helper.arguments_eq_ok_iff.mpr ⟨ofAttribute_crowdedHeader, hknown⟩) hreads

/-- The header is accepted although it has more strings than slots, a slot that is filled by
position and by name, and a name that comes twice. It does not hold the string too many, the string
that its name replaces, or the second value under the name. -/
theorem read_crowdedHeader_holds_less :
    Helper.Reader.header.read crowdedHeader = .ok (.header ⟨"X-A", "text/html"⟩) ∧
    Arguments.ofAttribute crowdedHeader = .ok crowdedArguments ∧
    Helper.Reader.header.slots.length < crowdedArguments.positional.length ∧
    Helper.Reader.header.slots[0]? = some "name" ∧
    ¬ (crowdedArguments.named.map Prod.fst).Nodup ∧
    crowdedArguments.positional[2]? = some "extra" ∧
    ¬ Helper.Element.HoldsAt Helper.Reader.header.slots 2 "extra" (.header ⟨"X-A", "text/html"⟩) ∧
    crowdedArguments.positional[0]? = some "Accept" ∧
    ¬ Helper.Element.HoldsAt Helper.Reader.header.slots 0 "Accept" (.header ⟨"X-A", "text/html"⟩) ∧
    ("name", .literal ⟨"\"X-B\"", .string "X-B"⟩) ∈ crowdedArguments.named ∧
    ¬ Helper.Element.HoldsUnder (.header ⟨"X-A", "text/html"⟩) "name"
      (.literal ⟨"\"X-B\"", .string "X-B"⟩) := by
  refine ⟨read_crowdedHeader, ofAttribute_crowdedHeader, by decide, rfl, by decide, rfl, ?_, rfl, ?_,
    by decide, ?_⟩
  · simp [Helper.Element.HoldsAt, Helper.Reader.slots]
  · simp [Helper.Element.HoldsAt, Helper.Reader.slots, Helper.Element.string?]
  · simp [Helper.Element.HoldsUnder, Helper.Element.string?, Arguments.integerValue]

theorem arguments_that_count_are_held_crowdedHeader :
    Helper.Reader.header.read crowdedHeader = .ok (.header ⟨"X-A", "text/html"⟩) ∧
    Helper.Element.HoldsAt Helper.Reader.header.slots 1 "text/html"
      (.header ⟨"X-A", "text/html"⟩) ∧
    Helper.Element.HoldsUnder (.header ⟨"X-A", "text/html"⟩) "name"
      (.literal ⟨"\"X-A\"", .string "X-A"⟩) ∧
    ∀ b, Arguments.ofAttribute b =
        .ok ⟨["", "text/html"], [("name", .literal ⟨"\"X-A\"", .string "X-A"⟩)]⟩ →
      Helper.Reader.header.read b = .ok (.header ⟨"X-A", "text/html"⟩) := by
  obtain ⟨args, hargs, -, hat, hunder, hagree⟩ := arguments_that_count_are_held read_crowdedHeader
  obtain rfl : crowdedArguments = args :=
    Except.ok.inj (ofAttribute_crowdedHeader.symm.trans hargs)
  refine ⟨read_crowdedHeader, hat 1 "text/html" rfl (.inr ⟨"value", rfl, by decide⟩),
    hunder [] "name" _ _ rfl (by decide), fun b hb => hagree b _ hb ⟨by decide, ?_, ?_, nofun⟩⟩
  · intro key
    rcases eq_or_ne "name" key with rfl | hne
    · rfl
    · simp [crowdedArguments, Arguments.value?, hne]
  · intro position key hkey hno
    rcases position with _ | _ | position
    · cases hkey
      exact absurd (by decide) hno
    · rfl
    · simp [Helper.Reader.slots] at hkey

end ClientTraits
