import ClientTraits.Proofs.Annotation.Declared
import ClientTraits.Proofs.Resolution.Locality
import ClientTraits.Proofs.Resolution.Own

/-!
# What an expansion tells

An expansion resolves its trait in a catalog that holds nothing else. What it tells, the text of the
constant or the messages, is read off the report from there (`expansionOutcome_of_ok`). Two
questions are answered by that:

* How does it compare with a resolution in a larger catalog? What belongs to the trait itself is the
  same, and it stands in front (`expansion_agrees_with_resolve`).
* Do the bounds of the trait matter, which the catalog knows nothing about? Only a bound by the
  trait's own name does (`expansionOutcome_withoutBounds_iff`). Names are compared by their last
  segment, so that a foreign trait of the same name counts as the trait itself.
-/

namespace ClientTraits

open Rust

/-! ### Outcomes -/

/-- What an expansion tells: the text of the constant, or the messages. Whether the constant has a
legal name is another question (`exists_writable_expansion_iff`). -/
def expansionOutcome (arguments : List Tree) (t : Trait) : Except (List String) String :=
  ((expand arguments t).mapError ExpansionError.messages).map Expansion.text

/-- What an expansion tells if this is the report of its trait. -/
def Report.outcome (r : Report) : Except (List String) String :=
  if r.isClean then .ok (Json.Value.array (r.endpoints.map Endpoint.toJson)).compact
  else .error (r.failures.map MethodFailure.localMessage ++ r.graphErrors.map GraphError.message)

theorem expansionOutcome_of_ne_nil {arguments : List Tree} (h : arguments ≠ []) (t : Trait) :
    expansionOutcome arguments t = .error ["#[client] takes no arguments"] := by
  cases arguments with
  | nil => exact absurd rfl h
  | cons first rest => rfl

theorem expansionOutcome_of_error {t : Trait} {e : AnnotationError}
    (h : Interface.ofTrait t = .error e) : expansionOutcome [] t = .error [e.message] := by
  have hannotated : Interface.ofAnnotated t = .error (.malformed e) := by
    rw [Interface.ofAnnotated, h]
  rw [expansionOutcome, expand, hannotated]
  rfl

/-- A trait that can be read is told about as its own report says. -/
theorem expansionOutcome_of_ok {t : Trait} {d : Interface} (h : Interface.ofTrait t = .ok d) :
    expansionOutcome [] t = { d with isClient := true }.lonelyReport.outcome := by
  have hannotated : Interface.ofAnnotated t = .ok { d with isClient := true } := by
    rw [Interface.ofAnnotated, h]
  rw [expansionOutcome, expand, hannotated]
  show (((Interface.lonelyEndpoints { d with isClient := true }).bind _).mapError _).map _ = _
  rw [Interface.lonelyEndpoints, Report.result, Report.outcome, Interface.lonelyReport]
  split <;> rfl

/-! ### Declarations of traits -/

/-- The bounds of a trait become its parents and nothing else. -/
theorem Interface.ofTrait_withoutBounds (t : Trait) :
    Interface.ofTrait { t with bounds := [] } =
      (Interface.ofTrait t).map fun d => { d with parents := [] } := by
  unfold Interface.ofTrait
  cases t.attributes.foldlM Shared.annotate ⟨[], .unset⟩ with
  | error e => rfl
  | ok settings =>
      cases Method.ofMembers t.members with
      | error e => rfl
      | ok methods => rfl

/-- What a declaration takes over from its trait. -/
theorem Interface.of_ofTrait {t : Trait} {d : Interface} (h : Interface.ofTrait t = .ok d) :
    d.name = t.name ∧ d.isClient = t.attributes.any (fun a => a.hasName "client") ∧
      d.parents = t.bounds.filterMap Bound.name? := by
  unfold Interface.ofTrait at h
  cases hsettings : t.attributes.foldlM Shared.annotate ⟨[], .unset⟩ with
  | error e => rw [hsettings] at h; cases h
  | ok settings =>
      rw [hsettings] at h
      cases hmethods : Method.ofMembers t.members with
      | error e => rw [hmethods] at h; cases h
      | ok methods =>
          rw [hmethods] at h
          cases h
          exact ⟨rfl, rfl, rfl⟩

/-- The parents are the names in the bounds. -/
theorem Interface.mem_parents_iff {t : Trait} {d : Interface} (h : Interface.ofTrait t = .ok d)
    (name : String) : name ∈ d.parents ↔ .named name ∈ t.bounds := by
  rw [(Interface.of_ofTrait h).2.2, List.mem_filterMap]
  constructor
  · intro hbound
    obtain ⟨bound, hmem, hbound⟩ := hbound
    cases bound with
    | named last => cases hbound; exact hmem
    | lifetime => cases hbound
    | capture => cases hbound
    | other => cases hbound
  · intro hmem
    exact ⟨_, hmem, rfl⟩

/-- A trait is among its own parents if one of its bounds has its name. -/
theorem Interface.name_mem_parents_iff {t : Trait} {d : Interface}
    (h : Interface.ofTrait t = .ok d) : d.name ∈ d.parents ↔ .named t.name ∈ t.bounds := by
  rw [(Interface.of_ofTrait h).1]
  exact Interface.mem_parents_iff h t.name

/-! ### Constants of traits -/

/-- The constant of an expansion is named for the trait. -/
theorem yields_constantName_expand (arguments : List Tree) (t : Trait) :
    Yields (expand arguments t) fun x => x.constantName = constantName t.name := by
  have hname : Yields (Interface.ofAnnotated t) fun i => i.name = t.name :=
    (Interface.yields_ofAnnotated t).mono fun i hi => by
      obtain ⟨j, hj, rfl⟩ := hi
      exact (Interface.of_ofTrait hj).1
  cases arguments with
  | cons first rest => exact yields_error _
  | nil =>
      refine hname.bind fun i hi => ?_
      refine (yields_any i.lonelyEndpoints).bind fun endpoints _ => yields_pure ?_
      rw [hi]

/-! ### Reports of lonely interfaces -/

namespace Interface

variable (i : Interface)

theorem ownFailures_eq_nil_iff :
    i.ownFailures = [] ↔ ∀ m ∈ i.methods, ∃ call, m.call.value = .ok call := by
  rw [List.eq_nil_iff_forall_not_mem]
  simp only [mem_ownFailures, Catalog.mem_failures, not_exists, not_and]
  constructor
  · intro h m hm
    cases hcall : m.call.value with
    | ok call => exact ⟨call, rfl⟩
    | error defect => exact absurd hcall (h ⟨_, defect⟩ m hm rfl)
  · intro h f m hm _ hdefect
    obtain ⟨call, hcall⟩ := h m hm
    rw [hcall] at hdefect
    cases hdefect

/-- A lonely interface resolves if its methods do and it does not list its own name. -/
theorem isClean_lonelyReport_iff :
    i.lonelyReport.isClean = true ↔
      (∀ m ∈ i.methods, ∃ call, m.call.value = .ok call) ∧ i.name ∉ i.parents := by
  rw [Report.isClean, Bool.and_eq_true, List.isEmpty_iff, List.isEmpty_iff,
    failures_lonelyReport, ownFailures_eq_nil_iff, graphErrors_lonelyReport]
  refine and_congr_right fun _ => ?_
  by_cases h : i.name ∈ i.parents <;> simp [h]

/-- Whether the outcome stays the same without parents. The own name among them adds a message. -/
theorem outcome_lonelyReport_withoutParents_iff :
    i.lonelyReport.outcome = { i with parents := [] }.lonelyReport.outcome ↔
      i.name ∉ i.parents := by
  have hfailures : { i with parents := [] }.lonelyReport.failures = i.lonelyReport.failures := by
    rw [failures_lonelyReport, failures_lonelyReport]
    rfl
  have hendpoints : { i with parents := [] }.lonelyReport.endpoints = i.lonelyReport.endpoints := by
    rw [endpoints_lonelyReport, endpoints_lonelyReport]
    rfl
  have hnone : { i with parents := [] }.lonelyReport.graphErrors = [] := by
    rw [graphErrors_lonelyReport]
    exact if_neg List.not_mem_nil
  have hgraph := i.graphErrors_lonelyReport
  rw [Report.outcome, Report.outcome, Report.isClean, Report.isClean, hfailures, hendpoints, hnone]
  by_cases hself : i.name ∈ i.parents
  · rw [if_pos hself] at hgraph
    rw [hgraph]
    cases i.lonelyReport.failures <;> simp [hself]
  · rw [if_neg hself] at hgraph
    rw [hgraph]
    exact iff_of_true rfl hself

end Interface

/-! ### The trait in a larger catalog -/

/-- **An expansion agrees with a resolution.** In the report of any catalog that has the declaration
of a trait, up to its mark, the endpoints and failures that belong to the trait stand in front, and
they are those of the declaration by itself. The expansion holds these endpoints; or it has one
message for each of these failures, in their order, and behind them messages for graph errors. -/
theorem expansion_agrees_with_resolve {t : Trait} {d : Interface} (hd : Interface.ofTrait t = .ok d)
    {c : Catalog} {i : Interface} (hi : c.find? d.name = some i) (hmark : i.unmarked = d.unmarked) :
    let whole := (c.resolve d.name).value
    let lonely := ((Catalog.ofList [{ d with isClient := true }]).resolve d.name).value
    (lonely.endpoints <+: whole.endpoints ∧ whole.endpointsOf d.name = lonely.endpoints) ∧
    (lonely.failures <+: whole.failures ∧ whole.failuresOf d.name = lonely.failures) ∧
    expansionOutcome [] t =
      if lonely.isClean then
        .ok (Json.Value.array ((whole.endpointsOf d.name).map Endpoint.toJson)).compact
      else
        .error ((whole.failuresOf d.name).map MethodFailure.localMessage ++
          lonely.graphErrors.map GraphError.message) := by
  obtain ⟨mark, rfl⟩ := Interface.exists_eq_of_unmarked hmark
  obtain ⟨hendpoints, hendpointsOf⟩ := Catalog.ownEndpoints_resolve hi
  obtain ⟨hfailures, hfailuresOf⟩ := Catalog.ownFailures_resolve hi
  have hlonelyEndpoints : { i with isClient := true }.lonelyReport.endpoints = i.ownEndpoints :=
    Interface.endpoints_lonelyReport _
  have hlonelyFailures : { i with isClient := true }.lonelyReport.failures = i.ownFailures :=
    Interface.failures_lonelyReport _
  have houtcome := expansionOutcome_of_ok hd
  rw [Report.outcome, hlonelyEndpoints, hlonelyFailures, ← hendpointsOf, ← hfailuresOf] at houtcome
  intro whole lonely
  refine ⟨⟨?_, ?_⟩, ⟨?_, ?_⟩, houtcome⟩
  · exact hlonelyEndpoints ▸ hendpoints
  · exact hendpointsOf.trans hlonelyEndpoints.symm
  · exact hlonelyFailures ▸ hfailures
  · exact hfailuresOf.trans hlonelyFailures.symm

/-- A method behind the attribute `get`. -/
def pingFunction (isAsync : Bool) : Function where
  attributes := [⟨false, ["get"], .tokens [.literal ⟨"\"/ping\"", .string "/ping"⟩]⟩]
  name := "ping"
  isAsync := isAsync
  inputs := [.receiver []]
  output := none

/-- A trait with a good method and one that occurs twice and fails both times alike. -/
def pingTrait : Trait where
  attributes := [⟨false, ["client"], .nothing⟩]
  isPublic := true
  name := "Ping"
  bounds := [.named "Left", .named "Missing"]
  members :=
    [.method { pingFunction false with name := "late" }, .method (pingFunction true),
      .method { pingFunction false with name := "late" }]

/-- The declaration of the trait. -/
def pingInterface : Interface where
  name := "Ping"
  isClient := true
  headers := []
  timeouts := .unset
  parents := ["Left", "Missing"]
  methods :=
    [⟨"late", false, [], [⟨.get, "/ping", true⟩], [], [], .unset⟩,
      ⟨"ping", true, [], [⟨.get, "/ping", true⟩], [], [], .unset⟩,
      ⟨"late", false, [], [⟨.get, "/ping", true⟩], [], [], .unset⟩]

/-- A catalog in which a parent of the trait extends it in turn. -/
def pingCatalog : Catalog :=
  .ofList [layer "Left" ["Base", "Ping"] true, { pingInterface with isClient := false },
    layer "Base" [] false]

/-- The catalog has more to tell than the trait, but not about the trait. -/
theorem expansion_agrees_with_resolve_pingTrait :
    Interface.ofTrait pingTrait = .ok pingInterface ∧
    pingCatalog.find? "Ping" = some { pingInterface with isClient := false } ∧
    (pingCatalog.resolve "Ping").value.endpoints.length = 2 ∧
    (pingCatalog.resolve "Ping").value.endpointsOf "Ping" =
      ((Catalog.ofList [pingInterface]).resolve "Ping").value.endpoints ∧
    ((Catalog.ofList [pingInterface]).resolve "Ping").value.failures <+:
      (pingCatalog.resolve "Ping").value.failures ∧
    expansionOutcome [] pingTrait =
      .error ["`late`: client methods must be `async fn` or return a future"] := by
  have hd : Interface.ofTrait pingTrait = .ok pingInterface := by decide +kernel
  have hi : pingCatalog.find? "Ping" = some { pingInterface with isClient := false } := by
    decide +kernel
  obtain ⟨⟨-, hendpoints⟩, ⟨hfailures, -⟩, houtcome⟩ := expansion_agrees_with_resolve hd hi rfl
  refine ⟨hd, hi, by decide +kernel, hendpoints, hfailures, houtcome.trans ?_⟩
  decide +kernel

/-! ### Bounds -/

theorem exists_expand_eq_ok_iff (arguments : List Tree) (t : Trait) :
    (∃ x, expand arguments t = .ok x) ↔ ∃ text, expansionOutcome arguments t = .ok text := by
  rw [expansionOutcome]
  cases expand arguments t with
  | error e => exact iff_of_false (fun ⟨_, h⟩ => nomatch h) fun ⟨_, h⟩ => nomatch h
  | ok x => exact iff_of_true ⟨x, rfl⟩ ⟨x.text, rfl⟩

theorem Report.exists_outcome_eq_ok_iff (r : Report) :
    (∃ text, r.outcome = .ok text) ↔ r.isClean = true := by
  rw [outcome]
  split
  · next h => exact iff_of_true ⟨_, rfl⟩ h
  · next h => exact iff_of_false (fun ⟨_, hok⟩ => nomatch hok) h

/-- What a trait is expanded to is known if and only if it can be read, all its methods resolve, and
no bound has its name. -/
theorem exists_expand_iff (arguments : List Tree) (t : Trait) :
    (∃ x, expand arguments t = .ok x) ↔ arguments = [] ∧ .named t.name ∉ t.bounds ∧
      ∃ d, Interface.ofTrait t = .ok d ∧ ∀ m ∈ d.methods, ∃ call, m.call.value = .ok call := by
  rw [exists_expand_eq_ok_iff]
  by_cases harguments : arguments = []
  · subst harguments
    cases hd : Interface.ofTrait t with
    | error e =>
        rw [expansionOutcome_of_error hd]
        simp
    | ok d =>
        rw [expansionOutcome_of_ok hd, Report.exists_outcome_eq_ok_iff,
          Interface.isClean_lonelyReport_iff, ← Interface.name_mem_parents_iff hd]
        simp [and_comm]
  · rw [expansionOutcome_of_ne_nil harguments]
    simp [harguments]

/-- An expansion can be written down if the name of the trait gives the constant a legal name. -/
theorem exists_writable_expansion_iff (arguments : List Tree) (t : Trait) :
    (∃ x, expand arguments t = .ok x ∧ x.isWritable = true) ↔
      isIdentifier (constantName t.name) = true ∧ ∃ x, expand arguments t = .ok x := by
  have hlegal {x : Expansion} (h : expand arguments t = .ok x) :
      x.isWritable = isIdentifier (constantName t.name) := by
    rw [Expansion.isWritable, yields_constantName_expand arguments t x h]
  constructor
  · intro h
    obtain ⟨x, hx, hwritable⟩ := h
    exact ⟨(hlegal hx).symm.trans hwritable, x, hx⟩
  · intro h
    obtain ⟨hname, x, hx⟩ := h
    exact ⟨x, hx, (hlegal hx).trans hname⟩

/-- **When bounds do not matter.** The bounds of a trait make no difference for its expansion unless
the trait can be read, the attribute has no arguments, and a bound has the name of the trait itself.
What a trait is expanded to is known if and only if it can be read, all its methods resolve, and no
bound has its name. It is expanded if and only if, besides, its name gives the constant a legal
name. -/
theorem expansionOutcome_withoutBounds_iff (arguments : List Tree) (t : Trait) :
    (expansionOutcome arguments t = expansionOutcome arguments { t with bounds := [] } ↔
      (arguments = [] → ∀ d, Interface.ofTrait t = .ok d → .named t.name ∉ t.bounds)) ∧
    ((∃ x, expand arguments t = .ok x) ↔ arguments = [] ∧ .named t.name ∉ t.bounds ∧
      ∃ d, Interface.ofTrait t = .ok d ∧ ∀ m ∈ d.methods, ∃ call, m.call.value = .ok call) ∧
    ((∃ x, expand arguments t = .ok x ∧ x.isWritable = true) ↔
      isIdentifier (constantName t.name) = true ∧ arguments = [] ∧ .named t.name ∉ t.bounds ∧
      ∃ d, Interface.ofTrait t = .ok d ∧ ∀ m ∈ d.methods, ∃ call, m.call.value = .ok call) := by
  refine ⟨?_, exists_expand_iff arguments t, ?_⟩
  · by_cases harguments : arguments = []
    · subst harguments
      cases hd : Interface.ofTrait t with
      | error e =>
          have hd' : Interface.ofTrait { t with bounds := [] } = .error e := by
            rw [Interface.ofTrait_withoutBounds, hd]
            rfl
          rw [expansionOutcome_of_error hd, expansionOutcome_of_error hd']
          exact iff_of_true rfl fun _ _ hd => nomatch hd
      | ok d =>
          have hd' : Interface.ofTrait { t with bounds := [] } = .ok { d with parents := [] } := by
            rw [Interface.ofTrait_withoutBounds, hd]
            rfl
          have hsame :=
            Interface.outcome_lonelyReport_withoutParents_iff { d with isClient := true }
          rw [expansionOutcome_of_ok hd, expansionOutcome_of_ok hd',
            ← Interface.name_mem_parents_iff hd]
          refine hsame.trans ?_
          constructor
          · intro hnot _ _ _
            exact hnot
          · intro hnot
            exact hnot rfl d rfl
    · rw [expansionOutcome_of_ne_nil harguments, expansionOutcome_of_ne_nil harguments]
      exact iff_of_true rfl fun h => absurd h harguments
  · rw [exists_writable_expansion_iff, exists_expand_iff]

/-- A trait that extends a foreign trait of its own name. -/
def displayTrait : Trait where
  attributes := []
  isPublic := true
  name := "Display"
  bounds := [.named "Display"]
  members := [.method (pingFunction true)]

/-- The foreign trait is taken for the trait itself, so that a trait without a defect is refused. -/
theorem expansionOutcome_displayTrait_ne :
    expansionOutcome [] displayTrait ≠ expansionOutcome [] { displayTrait with bounds := [] } ∧
    expansionOutcome [] displayTrait =
      .error ["`Display` extends `Display`, which is already on the inheritance path"] ∧
    ∃ x, expand [] { displayTrait with bounds := [] } = .ok x ∧ x.isWritable = true := by
  have hrefused : expansionOutcome [] displayTrait =
      .error ["`Display` extends `Display`, which is already on the inheritance path"] := by
    decide +kernel
  have hexpanded : ∃ x, expand [] { displayTrait with bounds := [] } = .ok x := by
    have hok : (expansionOutcome [] { displayTrait with bounds := [] }).isOk = true := by
      decide +kernel
    rw [exists_expand_eq_ok_iff]
    cases houtcome : expansionOutcome [] { displayTrait with bounds := [] } with
    | error messages => rw [houtcome] at hok; cases hok
    | ok text => exact ⟨text, rfl⟩
  refine ⟨fun hsame => ?_, hrefused,
    (exists_writable_expansion_iff _ _).mpr ⟨by decide +kernel, hexpanded⟩⟩
  obtain ⟨text, htext⟩ := (exists_expand_eq_ok_iff _ _).mp hexpanded
  rw [hrefused, htext] at hsame
  cases hsame

end ClientTraits
