import ClientTraits.Proofs.Files.Path
import ClientTraits.Proofs.Files.Tree

/-!
# Searching a tree of files

Trees of files have names that can stand in a path, and no two entries of a folder have the same one
(`FileTree.WellNamed`). In such a tree the files of a folder are those that names lead to, and their
paths are the path of the folder with these names behind it (`FileTree.mem_files_iff`). These paths
lead to them (`Disk.find?_below`). What a path leads to is told by its components
(`Disk.find?_eq_of_components_eq`).

## Proof shape

A path is followed segment by segment (`FileTree.follow_eq_foldlM`), and all segments but its steps
stay where they are (`FileTree.foldlM_step?_filter`). The files are an induction on how the tree is
put together.
-/

namespace ClientTraits

/-- The path behind which the names are joined one by one. -/
def Path.below (p : Path) (names : List String) : Path :=
  names.foldl (fun p name => p.join ⟨name⟩) p

namespace FileTree

/-! ### Names -/

/-- A name that can stand in a path. -/
def IsJoinable (name : String) : Prop :=
  IsEntryName name ∧ '/' ∉ name.toList

/-- The names of all entries can stand in a path, and entries of one folder have different names. -/
inductive WellNamed : FileTree → Prop
  | file (text : Option String) : WellNamed (.file text)
  | folder {entries : List (String × FileTree)} (hdistinct : (entries.map Prod.fst).Nodup)
      (hnames : ∀ entry ∈ entries, IsJoinable entry.1)
      (hentries : ∀ entry ∈ entries, WellNamed entry.2) : WellNamed (.folder entries)

theorem wellNamed_folder_iff {entries : List (String × FileTree)} :
    (folder entries).WellNamed ↔ (entries.map Prod.fst).Nodup ∧
      (∀ entry ∈ entries, IsJoinable entry.1) ∧ ∀ entry ∈ entries, entry.2.WellNamed := by
  constructor
  · intro h
    cases h with
    | folder hdistinct hnames hentries => exact ⟨hdistinct, hnames, hentries⟩
  · intro h
    exact .folder h.1 h.2.1 h.2.2

theorem WellNamed.lookup_iff {entries : List (String × FileTree)}
    (h : WellNamed (.folder entries)) {name : String} {t : FileTree} :
    entries.lookup name = some t ↔ (name, t) ∈ entries :=
  lookup_eq_some_iff_of_nodup (wellNamed_folder_iff.mp h).1

/-- What is in a well-named tree is well named, and so is the way to it. -/
theorem WellNamed.of_at? {t found : FileTree} (h : t.WellNamed) {names : List String}
    (hfound : t.at? names = some found) :
    found.WellNamed ∧ ∀ name ∈ names, IsJoinable name := by
  induction names generalizing t with
  | nil =>
      cases hfound
      exact ⟨h, fun _ hname => absurd hname List.not_mem_nil⟩
  | cons name rest ih =>
      obtain ⟨next, hnext, hrest⟩ := Option.bind_eq_some_iff.mp hfound
      cases t with
      | file text => cases hnext
      | folder entries =>
          have hmem := h.lookup_iff.mp hnext
          obtain ⟨-, hnames, hentries⟩ := wellNamed_folder_iff.mp h
          obtain ⟨hwell, hjoinable⟩ := ih (hentries _ hmem) hrest
          exact ⟨hwell, List.forall_mem_cons.mpr ⟨hnames _ hmem, hjoinable⟩⟩

/-! ### Files -/

theorem filesOfEntries_eq_flatMap (place : Path) (entries : List (String × FileTree)) :
    filesOfEntries place entries =
      entries.flatMap fun entry => entry.2.files (place.join ⟨entry.1⟩) := by
  induction entries with
  | nil => rfl
  | cons entry rest ih =>
      rw [filesOfEntries, ih]
      rfl

/-- The files of a tree are those that names lead to. -/
theorem mem_files_iff {t : FileTree} (h : t.WellNamed) {place p : Path} {text : Option String} :
    (p, text) ∈ t.files place ↔
      ∃ names, t.at? names = some (file text) ∧ p = place.below names := by
  induction h generalizing place with
  | file text' =>
      rw [files, List.mem_singleton, Prod.mk.injEq]
      constructor
      · intro h
        exact ⟨[], by rw [h.2]; rfl, h.1⟩
      · intro h
        obtain ⟨names, hnames, rfl⟩ := h
        cases names with
        | nil =>
            cases hnames
            exact ⟨rfl, rfl⟩
        | cons name rest => cases hnames
  | @folder entries hdistinct hnames hentries ih =>
      have hlookup : ∀ {name t}, entries.lookup name = some t ↔ (name, t) ∈ entries :=
        (WellNamed.folder hdistinct hnames hentries).lookup_iff
      rw [files, filesOfEntries_eq_flatMap, List.mem_flatMap]
      constructor
      · intro h
        obtain ⟨⟨name, next⟩, hmem, hp⟩ := h
        obtain ⟨names, hat, rfl⟩ := (ih _ hmem).mp hp
        refine ⟨name :: names, ?_, rfl⟩
        rw [at?, entry?, hlookup.mpr hmem]
        exact hat
      · intro h
        obtain ⟨names, hat, rfl⟩ := h
        cases names with
        | nil => cases hat
        | cons name rest =>
            obtain ⟨next, hnext, hrest⟩ := Option.bind_eq_some_iff.mp hat
            have hmem := hlookup.mp hnext
            exact ⟨(name, next), hmem, (ih _ hmem).mpr ⟨rest, hrest, rfl⟩⟩

theorem mem_paths_iff {entries : List (String × FileTree)} (h : (folder entries).WellNamed)
    {place p : Path} :
    p ∈ (filesOfEntries place entries).map Prod.fst ↔
      ∃ names text, (folder entries).at? names = some (file text) ∧ p = place.below names := by
  constructor
  · intro hp
    obtain ⟨⟨_, text⟩, hfile, rfl⟩ := List.mem_map.mp hp
    obtain ⟨names, hnames⟩ := (mem_files_iff h).mp hfile
    exact ⟨names, text, hnames⟩
  · intro hp
    obtain ⟨names, text, hnames⟩ := hp
    exact List.mem_map.mpr ⟨(p, text), (mem_files_iff h).mpr ⟨names, hnames⟩, rfl⟩

/-! ### Paths that are joined -/

/-- A segment that is no component stays where it is. -/
theorem eq_of_step?_eq_some {behind behind' : List (String × FileTree) × FileTree}
    {segment : String} (hsegment : (Component.ofSegment? segment).isSome = false)
    (h : step? behind segment = some behind') : behind' = behind := by
  have hstay : (segment = "" || segment = ".") = true := by
    by_contra hstay
    by_cases hup : segment = ".." <;> simp [Component.ofSegment?, hstay, hup] at hsegment
  obtain ⟨trail, here⟩ := behind
  cases here with
  | file text => cases h
  | folder entries =>
      simpa [step?, hstay, eq_comm] using h

/-- What is left of a path without such segments leads to the same place. -/
theorem foldlM_step?_filter {segments : List String}
    {start behind : List (String × FileTree) × FileTree}
    (h : segments.foldlM step? start = some behind) :
    (segments.filter fun segment => (Component.ofSegment? segment).isSome).foldlM step? start =
      some behind := by
  induction segments generalizing start with
  | nil => exact h
  | cons segment rest ih =>
      rw [List.foldlM_cons] at h
      obtain ⟨next, hnext, hrest⟩ := Option.bind_eq_some_iff.mp h
      by_cases hsegment : (Component.ofSegment? segment).isSome = true
      · rw [List.filter_cons_of_pos (by exact hsegment), List.foldlM_cons, hnext]
        exact ih hrest
      · rw [List.filter_cons_of_neg (by exact hsegment)]
        obtain rfl := eq_of_step?_eq_some (by simpa using hsegment) hnext
        exact ih hrest

/-- A slash at the end asks for a folder, and leads to it. -/
theorem follow_of_follow_append_empty {here found : FileTree} {trail : List (String × FileTree)}
    {segments names : List String}
    (h : follow trail here (segments ++ [""]) = some (names, found)) :
    follow trail here segments = some (names, found) := by
  rw [follow_eq_foldlM, List.foldlM_append] at h
  obtain ⟨behind, hall, heq⟩ := Option.map_eq_some_iff.mp h
  obtain ⟨between, hsegments, hslash⟩ := Option.bind_eq_some_iff.mp hall
  rw [List.foldlM_cons] at hslash
  obtain ⟨_, hslash, hend⟩ := Option.bind_eq_some_iff.mp hslash
  cases hend
  obtain rfl := eq_of_step?_eq_some (by decide) hslash
  rw [follow_eq_foldlM, hsegments]
  exact congrArg some heq

theorem filterMap_ofSegment?_of_isEntryName {names : List String}
    (h : ∀ name ∈ names, IsEntryName name) :
    names.filterMap Component.ofSegment? = names.map .name := by
  rw [← List.filterMap_eq_map]
  exact List.filterMap_congr fun name hname => ofSegment?_eq_name_iff.mpr ⟨rfl, h name hname⟩

end FileTree

namespace Path

variable {base p : Path}

/-- The steps of a path that does not lead up are names of entries. -/
theorem isEntryName_of_mem_steps (hup : ".." ∉ p.segments) : ∀ name ∈ p.steps, IsEntryName name := by
  intro name hname
  obtain ⟨hmem, hsome⟩ := List.mem_filter.mp hname
  have hne : name ≠ ".." := fun h => hup (h ▸ hmem)
  refine FileTree.isEntryName_of_not (fun hstay => ?_) hne
  simp [Component.ofSegment?, hstay] at hsome

theorem components_join_of_not_up (hbase : base.text ≠ "") (hp : p.isAbsolute = false)
    (hup : ".." ∉ p.segments) :
    (base.join p).components = base.components ++ p.steps.map .name := by
  rw [components_join hbase hp,
    FileTree.filterMap_ofSegment?_of_isEntryName (isEntryName_of_mem_steps hup)]

theorem components_below {names : List String} (hp : p.text ≠ "")
    (hnames : ∀ name ∈ names, FileTree.IsJoinable name) :
    (p.below names).components = p.components ++ names.map .name := by
  induction names generalizing p with
  | nil => exact (List.append_nil _).symm
  | cons name rest ih =>
      obtain ⟨⟨hentry, hslash⟩, hrest⟩ := List.forall_mem_cons.mp hnames
      have hname := isAbsolute_of_no_slash hslash
      have hsegments := segments_of_no_slash hslash
      have hsteps : (⟨name⟩ : Path).steps = [name] := by
        rw [steps, hsegments]
        simp [FileTree.ofSegment?_eq_name_iff.mpr ⟨rfl, hentry⟩]
      have hjoin := components_join_of_not_up hp hname (by simp [hsegments, hentry.2.2.symm])
      have hbelow := ih (text_join_ne hp hname) hrest
      rw [hjoin, hsteps, List.append_assoc] at hbelow
      exact hbelow

end Path

namespace Disk

variable {d : Disk} {found : FileTree} {p q base : Path} {entries : List (String × FileTree)}

theorem find?_eq_some_iff :
    d.find? p = some found ↔
      p.text ≠ "" ∧ ∃ names, d.top.follow [] (d.start p ++ p.segments) = some (names, found) := by
  rw [find?]
  by_cases hempty : p.text = "" <;> simp [hempty]

/-- The steps that lead to a path from the top. -/
def steps (d : Disk) (p : Path) : List String :=
  ((d.start p).filter fun segment => (Component.ofSegment? segment).isSome) ++ p.steps

/-- A path leads where its steps lead. -/
theorem exists_foldlM_steps (h : d.find? p = some found) :
    ∃ trail, (d.steps p).foldlM FileTree.step? ([], d.top) = some (trail, found) := by
  obtain ⟨-, names, hfollow⟩ := find?_eq_some_iff.mp h
  rw [FileTree.follow_eq_foldlM] at hfollow
  obtain ⟨⟨trail, _⟩, hsegments, heq⟩ := Option.map_eq_some_iff.mp hfollow
  cases heq
  have hsteps := FileTree.foldlM_step?_filter hsegments
  rw [List.filter_append] at hsteps
  exact ⟨trail, hsteps⟩

theorem start_congr (h : p.isAbsolute = q.isAbsolute) : d.start p = d.start q := by
  rw [start, start, h]

/-- Paths with the same components lead to the same thing. -/
theorem find?_eq_of_components_eq {found' : FileTree} (h : d.find? p = some found)
    (h' : d.find? q = some found') (hsame : p.components = q.components) : found = found' := by
  have hsteps : d.steps p = d.steps q := by
    rw [steps, steps, start_congr (Path.isAbsolute_congr hsame), ← Path.filterMap_components,
      hsame, Path.filterMap_components]
  obtain ⟨trail, hp⟩ := exists_foldlM_steps h
  obtain ⟨trail', hq⟩ := exists_foldlM_steps h'
  rw [hsteps, hq] at hp
  cases hp
  rfl

/-- The path of an entry leads to it. -/
theorem find?_join {name : String} {next : FileTree} (h : d.find? p = some (.folder entries))
    (hname : FileTree.IsJoinable name) (hnext : entries.lookup name = some next) :
    d.find? (p.join ⟨name⟩) = some next := by
  obtain ⟨hne, names, hfollow⟩ := find?_eq_some_iff.mp h
  have hname' := Path.isAbsolute_of_no_slash hname.2
  obtain ⟨start, hstart, -, hjoin⟩ := Path.exists_segments_join hne hname'
  have habove : d.top.follow [] (d.start p ++ start) = some (names, .folder entries) := by
    rcases hstart with hstart | hstart
    · rwa [← hstart]
    · rw [hstart, ← List.append_assoc] at hfollow
      exact FileTree.follow_of_follow_append_empty hfollow
  refine find?_eq_some_iff.mpr ⟨Path.text_join_ne hne hname', names ++ [name], ?_⟩
  rw [hjoin, Path.segments_of_no_slash hname.2, start_congr (Path.isAbsolute_join hne hname'),
    ← List.append_assoc]
  exact FileTree.follow_append_of_isEntryName hname.1 habove hnext

/-- The path of what is in a folder leads to it. -/
theorem find?_below {here : FileTree} {names : List String} (h : d.find? p = some here)
    (hnames : ∀ name ∈ names, FileTree.IsJoinable name) (hfound : here.at? names = some found) :
    d.find? (p.below names) = some found := by
  induction names generalizing p here with
  | nil =>
      cases hfound
      exact h
  | cons name rest ih =>
      rw [List.forall_mem_cons] at hnames
      obtain ⟨next, hnext, hrest⟩ := Option.bind_eq_some_iff.mp hfound
      cases here with
      | file text => cases hnext
      | folder entries => exact ih (find?_join h hnames.1 hnext) hnames.2 hrest

/-- What a path leads to behind that of a folder is in the folder, at the steps of the path. -/
theorem at?_steps {sub : Path} (hbase : d.find? base = some (.folder entries))
    (hsub : sub.isAbsolute = false) (hup : ".." ∉ sub.segments)
    (h : d.find? (base.join sub) = some found) :
    (FileTree.folder entries).at? sub.steps = some found := by
  obtain ⟨hne, -⟩ := find?_eq_some_iff.mp hbase
  obtain ⟨trail, habove⟩ := exists_foldlM_steps hbase
  obtain ⟨trail', hall⟩ := exists_foldlM_steps h
  have hjoin : d.steps (base.join sub) = d.steps base ++ sub.steps := by
    rw [steps, steps, start_congr (Path.isAbsolute_join hne hsub), Path.steps_join hne hsub,
      List.append_assoc]
  have hsteps : sub.steps.foldlM FileTree.step? (trail, .folder entries) =
      some (trail', found) := by
    rwa [hjoin, List.foldlM_append, habove] at hall
  rw [← FileTree.map_snd_follow (Path.isEntryName_of_mem_steps hup) trail,
    FileTree.follow_eq_foldlM, hsteps]
  rfl

end Disk

namespace FileTree

variable {d : Disk} {found : FileTree} {p : Path}

/-- What is found in a well-named tree is well named. -/
theorem WellNamed.of_find? (h : d.top.WellNamed) (hfound : d.find? p = some found) :
    found.WellNamed := by
  obtain ⟨-, names, hfollow⟩ := Disk.find?_eq_some_iff.mp hfound
  exact (h.of_at? (at?_of_follow .top hfollow)).1

/-- What names lead to in what is found is found behind the path, and the names are components. -/
theorem WellNamed.leads_below (hwell : d.top.WellNamed) {here : FileTree} {names : List String}
    (hp : d.find? p = some here) (hnames : here.at? names = some found) :
    d.find? (p.below names) = some found ∧
      (p.below names).components = p.components ++ names.map .name := by
  obtain ⟨hne, -⟩ := Disk.find?_eq_some_iff.mp hp
  have hjoinable := ((hwell.of_find? hp).of_at? hnames).2
  exact ⟨Disk.find?_below hp hjoinable hnames, Path.components_below hne hjoinable⟩

end FileTree

end ClientTraits
