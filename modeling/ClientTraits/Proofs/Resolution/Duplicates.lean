import ClientTraits.Proofs.Resolution.Images
import ClientTraits.Proofs.Resolution.References
import ClientTraits.Proofs.Resolution.Repetition

/-!
# Duplicates and the lineages behind them

A signature with several endpoints is a duplicate, and there are two reasons for one: an interface
declares two methods of one signature, or several simple lineages lead to the interface. Without the
first, duplicates are read off the lineages of the root alone (`duplicates_resolve`).

Each lineage contributes each signature at most once then (`Interface.callSignatures_sublist`), so
that endpoints of a signature are counted by lineages (`count_flatMap_eq_length_filter`).
-/

namespace ClientTraits

/-! ### Counting by parts -/

section Counting

variable {α β : Type} [DecidableEq α] {f : β → List α} {items : List β} {a : α}

/-- If each part has the item at most once, it occurs as often as there are parts that have it. -/
theorem count_flatMap_eq_length_filter (h : ∀ b ∈ items, (f b).Nodup) :
    (items.flatMap f).count a = (items.filter fun b => a ∈ f b).length := by
  induction items with
  | nil => rfl
  | cons b rest ih =>
      have hrest := ih fun b' hb' => h b' (List.mem_cons_of_mem b hb')
      have hb : (f b).Nodup := h b List.mem_cons_self
      rw [List.flatMap_cons, List.count_append, hrest]
      by_cases ha : a ∈ f b
      · rw [List.count_eq_one_of_mem hb ha, List.filter_cons_of_pos (by simpa using ha),
          List.length_cons, Nat.add_comm]
      · rw [List.count_eq_zero_of_not_mem ha, List.filter_cons_of_neg (by simpa using ha),
          Nat.zero_add]

theorem two_le_count_flatMap_iff [DecidableEq β] (hitems : items.Nodup)
    (h : ∀ b ∈ items, (f b).Nodup) :
    2 ≤ (items.flatMap f).count a ↔
      ∃ b ∈ items, ∃ b' ∈ items, b ≠ b' ∧ a ∈ f b ∧ a ∈ f b' := by
  rw [count_flatMap_eq_length_filter h, ← List.toFinset_card_of_nodup (hitems.filter _)]
  refine Finset.one_lt_card.trans ?_
  simp only [List.mem_toFinset, List.mem_filter, decide_eq_true_eq]
  constructor
  · intro hpair
    obtain ⟨b, ⟨hb, ha⟩, b', ⟨hb', ha'⟩, hne⟩ := hpair
    exact ⟨b, hb, b', hb', hne, ha, ha'⟩
  · intro hpair
    obtain ⟨b, hb, b', hb', hne, ha, ha'⟩ := hpair
    exact ⟨b, ⟨hb, ha⟩, b', ⟨hb', ha'⟩, hne⟩

end Counting

/-! ### Signatures along a lineage -/

namespace Interface

variable {i : Interface}

/-- The signatures of the methods without a defect. -/
def callSignatures (i : Interface) : List Signature :=
  i.calls.map Prod.fst

theorem map_signature_endpoints (i : Interface) (settings : Fragment) :
    (i.endpoints settings).map Endpoint.signature = i.callSignatures := by
  rw [endpoints_eq_map_calls, List.map_map]
  rfl

theorem mem_callSignatures {s : Signature} :
    s ∈ i.callSignatures ↔
      ∃ m ∈ i.methods, m.signature i.name = s ∧ ∃ call, m.call.value = .ok call := by
  rw [← i.map_signature_endpoints .empty, List.mem_map]
  constructor
  · intro hs
    obtain ⟨e, he, rfl⟩ := hs
    obtain ⟨m, hm, call, hcall, rfl⟩ := Catalog.mem_endpoints.mp he
    exact ⟨m, hm, rfl, call, hcall⟩
  · intro hs
    obtain ⟨m, hm, rfl, call, hcall⟩ := hs
    exact ⟨_, Catalog.mem_endpoints.mpr ⟨m, hm, call, hcall, rfl⟩, rfl⟩

theorem owner_of_mem_callSignatures {s : Signature} (h : s ∈ i.callSignatures) :
    s.owner = i.name := by
  obtain ⟨m, -, rfl, -⟩ := mem_callSignatures.mp h
  rfl

/-- Methods without a defect are methods. -/
theorem callSignatures_sublist (i : Interface) :
    i.callSignatures.Sublist (i.methods.map fun m => m.signature i.name) := by
  rw [callSignatures, calls]
  induction i.methods with
  | nil => exact List.Sublist.slnil
  | cons m rest ih =>
      rw [List.map_cons]
      cases hcall : m.call.value with
      | ok call =>
          rw [List.filterMap_cons_some (by rw [hcall]), List.map_cons]
          exact ih.cons_cons _
      | error defect =>
          rw [List.filterMap_cons_none (by rw [hcall])]
          exact ih.cons _

end Interface

/-- The lineage is a simple one from the root to the interface of a name. -/
structure Lineage.Leads (c : Catalog) (root name : String) (l : Lineage) : Prop where
  first : c.find? root = some l.first
  isIn : l.IsIn c
  simple : l.names.Nodup
  last : l.last.name = name

namespace Catalog

variable {c : Catalog}

theorem leads_iff {root name : String} {i : Interface} (h : c.find? root = some i) {l : Lineage} :
    l.Leads c root name ↔ l ∈ c.lineages i ∧ l.last.name = name := by
  rw [mem_lineages]
  constructor
  · intro hl
    exact ⟨⟨Option.some.inj (hl.first.symm.trans h), hl.isIn, hl.simple⟩, hl.last⟩
  · intro hl
    obtain ⟨⟨rfl, hin, hsimple⟩, hlast⟩ := hl
    exact ⟨h, hin, hsimple, hlast⟩

/-- No lineage is listed twice. -/
theorem nodup_lineages (c : Catalog) (i : Interface) : (c.lineages i).Nodup :=
  (c.lineages_pairwise_lt i).imp fun h heq => absurd (heq ▸ h) (List.lt_irrefl _)

/-- No interface declares two methods of one signature. -/
def HasDistinctSignatures (c : Catalog) : Prop :=
  ∀ i ∈ c.interfaces, (i.methods.map fun m => m.signature i.name).Nodup

instance (c : Catalog) : Decidable c.HasDistinctSignatures :=
  inferInstanceAs (Decidable (∀ i ∈ c.interfaces, _))

/-- The signature is that of a method without a defect, which its owner declares. -/
def HasCall (c : Catalog) (s : Signature) : Prop :=
  ∃ i, c.find? s.owner = some i ∧ ∃ m ∈ i.methods, m.signature i.name = s ∧
    ∃ call, m.call.value = .ok call

/-! ### Duplicates -/

theorem value_signatures_resolve {root : String} {i : Interface} (h : c.find? root = some i) :
    (c.resolve root).value.signatures =
      (c.lineages i).flatMap fun l => l.last.callSignatures := by
  rw [Report.signatures, value_endpoints_resolve h, List.map_flatMap]
  exact List.flatMap_congr fun l _ => l.last.map_signature_endpoints _

/-- What a simple lineage of a declared interface leads to is found under its name. -/
theorem find?_last_of_mem_lineages {i : Interface} (hi : c.find? i.name = some i) {l : Lineage}
    (hl : l ∈ c.lineages i) : c.find? l.last.name = some l.last :=
  find?_name_of_reaches hi ((reaches_iff_exists_lineage hi).mpr ⟨l, hl, rfl⟩)

/-- Without repeated signatures, an endpoint is recorded again if two lineages lead to it. -/
theorem two_le_count_signatures_iff (hc : c.HasDistinctSignatures) (root : String)
    (s : Signature) :
    2 ≤ (c.resolve root).value.signatures.count s ↔
      c.HasCall s ∧
        ∃ l l' : Lineage, l ≠ l' ∧ l.Leads c root s.owner ∧ l'.Leads c root s.owner := by
  cases hroot : c.find? root with
  | none =>
      rw [resolve_of_undeclared hroot]
      refine iff_of_false (Nat.not_succ_le_zero 1) fun h => ?_
      obtain ⟨-, l, l', -, hl, -⟩ := h
      exact Option.some_ne_none _ (hl.first.symm.trans hroot)
  | some i =>
      have hi : c.find? i.name = some i := by rw [name_of_find? hroot, hroot]
      have hnodup : ∀ l ∈ c.lineages i, l.last.callSignatures.Nodup := fun l hl =>
        (hc _ (mem_of_find? (find?_last_of_mem_lineages hi hl))).sublist
          l.last.callSignatures_sublist
      rw [value_signatures_resolve hroot, two_le_count_flatMap_iff (c.nodup_lineages i) hnodup]
      simp only [leads_iff hroot]
      constructor
      · intro h
        obtain ⟨l, hl, l', hl', hne, hs, hs'⟩ := h
        have howner := Interface.owner_of_mem_callSignatures hs
        have howner' := Interface.owner_of_mem_callSignatures hs'
        refine ⟨⟨l.last, ?_, Interface.mem_callSignatures.mp hs⟩, l, l', hne, ⟨hl, howner.symm⟩,
          hl', howner'.symm⟩
        rw [howner]
        exact find?_last_of_mem_lineages hi hl
      · intro h
        obtain ⟨⟨j, hj, hm⟩, l, l', hne, ⟨hl, hlast⟩, hl', hlast'⟩ := h
        have hs : s ∈ j.callSignatures := Interface.mem_callSignatures.mpr hm
        -- There is only one interface of the owner's name for a lineage to lead to.
        have hend : ∀ k ∈ c.lineages i, k.last.name = s.owner → k.last = j := by
          intro k hk hname
          have hfind := find?_last_of_mem_lineages hi hk
          rw [hname, hj] at hfind
          exact (Option.some.inj hfind).symm
        refine ⟨l, hl, l', hl', hne, ?_, ?_⟩
        · rw [hend l hl hlast]
          exact hs
        · rw [hend l' hl' hlast']
          exact hs

/-- **Duplicates.** The duplicates of a report are the signatures of two or more endpoints, once
each, in the order in which their second endpoints were recorded. There is a warning for each
endpoint that was recorded under a signature that had one, which makes as many as there are more
endpoints than signatures. If no interface declares a signature twice, the duplicates are the
signatures of methods without a defect to whose interface two simple lineages lead from the root. -/
theorem duplicates_resolve (c : Catalog) (root : String) :
    let resolution := c.resolve root
    let recorded := resolution.value.endpoints.map Endpoint.signature
    let duplicates := resolution.value.duplicates
    let warnings := resolution.events.filter Event.isRecordedAgain
    duplicates.Nodup ∧ (∀ s, s ∈ duplicates ↔ 2 ≤ recorded.count s) ∧
      duplicates = filterByPast (fun past s => past.count s == 1) [] recorded ∧
      warnings = (filterByPast List.contains [] recorded).map (.recordedAgain root) ∧
      warnings.length + recorded.toFinset.card = resolution.value.endpoints.length ∧
      (c.HasDistinctSignatures → ∀ s, s ∈ duplicates ↔
        c.HasCall s ∧
          ∃ l l' : Lineage, l ≠ l' ∧ l.Leads c root s.owner ∧ l'.Leads c root s.owner) := by
  intro resolution recorded duplicates warnings
  have hmem : ∀ s, s ∈ duplicates ↔ 2 ≤ recorded.count s := by
    intro s
    have hs : s ∈ duplicates ↔ s ∉ [] ∧ 2 ≤ ([] ++ recorded).count s :=
      Tracks.nil.mem_secondOccurrences
    rwa [and_iff_right List.not_mem_nil, List.nil_append] at hs
  have hwarnings : warnings = (filterByPast List.contains [] recorded).map (.recordedAgain root) :=
    c.filter_events_resolve root
  refine ⟨Tracks.nil.nodup_secondOccurrences recorded, hmem,
    Tracks.nil.secondOccurrences_eq recorded, hwarnings, ?_, fun hc s => ?_⟩
  · have hlength := length_filterByPast_contains [] recorded
    rw [hwarnings, List.length_map]
    rw [List.nil_append, List.toFinset_nil, Finset.card_empty, Nat.add_zero] at hlength
    rw [hlength]
    exact List.length_map _
  · rw [hmem]
    exact two_le_count_signatures_iff hc root s

/-- Three lineages lead to `Left` and to `Base` each, but the method of `Base` has a defect. -/
theorem duplicates_resolve_tangledCatalog :
    let status : Signature := ⟨"Left", "status", []⟩
    let resolution := tangledCatalog.resolve "Api"
    tangledCatalog.HasDistinctSignatures ∧
      resolution.value.duplicates = [status] ∧
      resolution.events.filter Event.isRecordedAgain =
        [.recordedAgain "Api" status, .recordedAgain "Api" status] ∧
      (tangledCatalog.HasCall status ∧ ∃ l l' : Lineage, l ≠ l' ∧
        l.Leads tangledCatalog "Api" "Left" ∧ l'.Leads tangledCatalog "Api" "Left") := by
  intro status resolution
  have hdistinct : tangledCatalog.HasDistinctSignatures := by decide +kernel
  have hduplicates : resolution.value.duplicates = [status] := by decide +kernel
  obtain ⟨-, -, -, hwarnings, -, hlineages⟩ := duplicates_resolve tangledCatalog "Api"
  refine ⟨hdistinct, hduplicates, hwarnings.trans (by decide +kernel), ?_⟩
  refine (hlineages hdistinct status).mp ?_
  rw [hduplicates]
  exact List.mem_singleton_self status

end Catalog

end ClientTraits
