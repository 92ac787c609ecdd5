import ClientTraits.Proofs.Declaration.Lookup
import ClientTraits.Proofs.Fragment.Merge
import ClientTraits.Proofs.Resolution.Images
import ClientTraits.Proofs.Resolution.Own
import ClientTraits.Proofs.Resolution.References

/-!
# Where the settings of an interface go

Headers and timeouts of an interface are for its own methods and for those of the interfaces that it
extends. To say that they go nowhere else, two catalogs are compared that differ in the settings of
one interface (`Catalog.DiffersInSettingsOf`). Their reports differ in headers and timeouts of
endpoints only, and only of those that were recorded on a lineage that meets this interface
(`resolve_settings_stay_on_path`).

## Proof shape

The second catalog is an image of the first (`DiffersInSettingsOf.exists_isImage`), so that the same
methods are recorded on corresponding lineages. The settings of a lineage are no request, whatever
interfaces say, and hence contribute to no other field (`sameButSettings_ofCall_apply`). A lineage
that does not meet the interface corresponds to itself.
-/

namespace ClientTraits

/-! ### Other settings -/

namespace Interface

/-- The declaration with other settings. -/
def withSettings (i : Interface) (settings : Shared) : Interface :=
  { i with headers := settings.headers, timeouts := settings.timeouts }

/-- The declaration, with other settings if this is its name. -/
def withSettingsOf (name : String) (settings : Shared) (i : Interface) : Interface :=
  if i.name = name then i.withSettings settings else i

variable (name : String) (settings : Shared) (i : Interface)

theorem name_withSettingsOf : (i.withSettingsOf name settings).name = i.name := by
  unfold withSettingsOf
  split <;> rfl

theorem parents_withSettingsOf : (i.withSettingsOf name settings).parents = i.parents := by
  unfold withSettingsOf
  split <;> rfl

theorem methods_withSettingsOf : (i.withSettingsOf name settings).methods = i.methods := by
  unfold withSettingsOf
  split <;> rfl

variable {name} {i}

theorem withSettingsOf_of_eq (h : i.name = name) :
    i.withSettingsOf name settings = i.withSettings settings :=
  if_pos h

theorem withSettingsOf_of_ne (h : i.name ≠ name) : i.withSettingsOf name settings = i :=
  if_neg h

end Interface

/-- The endpoints describe the same request of the same method, up to headers and timeouts. -/
def Endpoint.SameButSettings (e e' : Endpoint) : Prop :=
  ∃ headers timeouts, e' = { e with headers := headers, timeouts := timeouts }

/-- Settings of interfaces contribute to nothing but headers and timeouts. -/
theorem sameButSettings_ofCall_apply {settings settings' : Fragment}
    (h : settings.isCall = false) (h' : settings'.isCall = false) (signature : Signature)
    (call : Call) :
    (Endpoint.ofCall signature (settings.apply call)).SameButSettings
      (Endpoint.ofCall signature (settings'.apply call)) := by
  obtain ⟨-, hquery, hattributes⟩ := Fragment.of_not_isCall h
  obtain ⟨-, hquery', hattributes'⟩ := Fragment.of_not_isCall h'
  refine ⟨(settings'.apply call).effectiveHeaders, (settings'.apply call).timeouts, ?_⟩
  simp only [Endpoint.ofCall, Call.effectiveAttributes, Fragment.apply, hquery, hquery',
    hattributes, hattributes']

/-- The same lineage as far as names and entries go, and on it the same endpoint, of which settings
of the interface of this name may have reached headers and timeouts if the lineage meets it. -/
structure Occurrence.SameButSettingsOf (name : String) (o o' : Occurrence) : Prop where
  names : o'.path.names = o.path.names
  entries : o'.path.entries = o.path.entries
  endpoint : o.endpoint.SameButSettings o'.endpoint
  endpoint_eq : name ∉ o.path.names → o'.endpoint = o.endpoint

/-- What is recorded on a lineage is recorded on its image, up to settings. -/
theorem Occurrence.sameButSettingsOf_map (name : String) (settings : Shared) (o : Occurrence) :
    o.SameButSettingsOf name (o.map (Interface.withSettingsOf name settings)) where
  names := Lineage.names_map (Interface.name_withSettingsOf name settings) o.path
  entries := Lineage.entries_map o.path
  endpoint := sameButSettings_ofCall_apply (not_isCall_sharedSettings _)
    (not_isCall_sharedSettings _) o.signature o.call
  endpoint_eq := by
    intro hname
    have hpath : o.path.map (Interface.withSettingsOf name settings) = o.path := by
      refine Lineage.map_eq_self fun i hi => Interface.withSettingsOf_of_ne settings fun heq => ?_
      exact hname (heq ▸ List.mem_map_of_mem hi)
    rw [Occurrence.map, hpath]

namespace Catalog

variable {c c' : Catalog} {name : String}

/-- Nothing but the settings of the interface of this name differs. -/
structure DiffersInSettingsOf (c c' : Catalog) (name : String) : Prop where
  others : ∀ other, other ≠ name → c'.find? other = c.find? other
  changed : ∃ settings, c'.find? name = (c.find? name).map fun i => i.withSettings settings

/-- A declaration with other settings in the place of the old one. -/
theorem differsInSettingsOf_insert {i : Interface} (hi : c.find? name = some i)
    (settings : Shared) : c.DiffersInSettingsOf (c.insert (i.withSettings settings)) name := by
  have hname : (i.withSettings settings).name = name := name_of_find? (i := i) hi
  constructor
  · intro other hother
    rw [find?_insert, hname, if_neg hother.symm]
  · refine ⟨settings, ?_⟩
    rw [find?_insert, if_pos hname, hi]
    rfl

theorem DiffersInSettingsOf.exists_isImage (h : c.DiffersInSettingsOf c' name) :
    ∃ settings, c.IsImage c' (Interface.withSettingsOf name settings) := by
  obtain ⟨settings, hchanged⟩ := h.changed
  refine ⟨settings, fun other => ?_, Interface.name_withSettingsOf name settings,
    Interface.parents_withSettingsOf name settings⟩
  -- What is found under a name has that name, which decides whether its settings are changed.
  by_cases hother : other = name
  · subst hother
    rw [hchanged]
    refine Option.map_congr fun i hi => ?_
    exact (Interface.withSettingsOf_of_eq settings (name_of_find? hi)).symm
  · rw [h.others other hother]
    cases hi : c.find? other with
    | none => rfl
    | some i =>
        have hne : i.name ≠ name := name_of_find? hi ▸ hother
        rw [Option.map_some, Interface.withSettingsOf_of_ne settings hne]

/-- **Settings stay on the path.** If two catalogs differ in the settings of one interface, reports
of a root have the same failures and graph errors, and the same methods are recorded on the same
lineages, in the same order. The endpoints agree up to headers and timeouts, and they are equal if
the lineage does not meet that interface. So, unless it is the root, the endpoints of the root's own
methods are equal. -/
theorem resolve_settings_stay_on_path (h : c.DiffersInSettingsOf c' name) (root : String) :
    let report := (c.resolve root).value
    let report' := (c'.resolve root).value
    report'.failures = report.failures ∧ report'.graphErrors = report.graphErrors ∧
    report.endpoints = (c.occurrences root).map Occurrence.endpoint ∧
    report'.endpoints = (c'.occurrences root).map Occurrence.endpoint ∧
    List.Forall₂ (Occurrence.SameButSettingsOf name) (c.occurrences root) (c'.occurrences root) ∧
    (root ≠ name → report'.endpointsOf root = report.endpointsOf root) := by
  obtain ⟨settings, himage⟩ := h.exists_isImage
  have hmethods := Interface.methods_withSettingsOf name settings
  refine ⟨himage.value_failures hmethods root, himage.value_graphErrors root,
    (c.map_endpoint_occurrences root).symm, (c'.map_endpoint_occurrences root).symm, ?_, ?_⟩
  · rw [himage.occurrences hmethods root, List.forall₂_map_right_iff, List.forall₂_same]
    intro o _
    exact o.sameButSettingsOf_map name settings
  · intro hroot
    have hfind := h.others root hroot
    cases hi : c.find? root with
    | none => rw [resolve_of_undeclared hi, resolve_of_undeclared (hfind.trans hi)]
    | some i => rw [(ownEndpoints_resolve hi).2, (ownEndpoints_resolve (hfind.trans hi)).2]

/-- A variant of `tangledCatalog`, with other settings of an interface that the root extends. -/
def impatientCatalog : Catalog :=
  tangledCatalog.insert
    ((layer "Left" ["Base"] true).withSettings ⟨[⟨"Priority", "high"⟩], ⟨some 100, none, none⟩⟩)

/-- The change can be seen, but not in the endpoint of the root's method. -/
theorem resolve_settings_stay_on_path_impatientCatalog :
    tangledCatalog.DiffersInSettingsOf impatientCatalog "Left" ∧
    (impatientCatalog.resolve "Api").value.endpoints ≠
      (tangledCatalog.resolve "Api").value.endpoints ∧
    (impatientCatalog.resolve "Api").value.failures =
      (tangledCatalog.resolve "Api").value.failures ∧
    List.Forall₂ (Occurrence.SameButSettingsOf "Left") (tangledCatalog.occurrences "Api")
      (impatientCatalog.occurrences "Api") ∧
    (impatientCatalog.resolve "Api").value.endpointsOf "Api" =
      (tangledCatalog.resolve "Api").value.endpointsOf "Api" := by
  have hdiffers : tangledCatalog.DiffersInSettingsOf impatientCatalog "Left" :=
    differsInSettingsOf_insert (by decide) _
  obtain ⟨hfailures, -, -, -, hoccurrences, hroot⟩ := resolve_settings_stay_on_path hdiffers "Api"
  exact ⟨hdiffers, by decide +kernel, hfailures, hoccurrences, hroot (by decide)⟩

end Catalog

end ClientTraits
