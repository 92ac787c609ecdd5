import ClientTraits.Proofs.Files.Search
import ClientTraits.Proofs.Tool.Sources

/-!
# Which source files are read

An input that is a file is read, whatever it is called. An input that is a folder stands for the
files with the extension of source files at any depth below it (`World.Selects`). The files are read
in the order of their components, and of several paths with the same components only one is read
(`Run.sourceFiles_select`).

So the order of the inputs, repetitions, and inputs inside of folders that are inputs anyway
(`World.Widens`) change nothing but the spelling of paths. The declarations are read in the same
order, and of several declarations of a name the same one counts. The paths of such inputs must not
lead up: paths are not told by the place that they lead to, and a file that is reached by a detour
is another file (`Run.sourceFiles_detourWorld_ne`).

## Proof shape

The files below a folder are those that names lead to, and so are the files below a folder in it,
with longer names (`World.Within.exists_selects`). Which paths are read is told by which component
lists are selected. Paths with the same components lead to the same file, so that they declare the
same (`World.declarationsIn_eq`).
-/

namespace ClientTraits

namespace World

variable {w : World} {input base p q : Path} {inputs inputs' : List Path}

/-! ### Selection -/

/-- What an input stands for: itself if it is a file, and if it is a folder any file below it whose
name ends in the extension of source files. -/
inductive Selects (w : World) (input : Path) : Path → Prop
  | file {text : Option String} (hinput : w.disk.find? input = some (.file text)) :
      Selects w input input
  | below {entries : List (String × FileTree)} {names : List String} {stem : String}
      {text : Option String} (hinput : w.disk.find? input = some (.folder entries))
      (hstem : stem ≠ "")
      (hfile : (FileTree.folder entries).at? (names ++ [stem ++ "." ++ sourceExtension]) =
        some (.file text)) :
      Selects w input (input.below (names ++ [stem ++ "." ++ sourceExtension]))

/-- Behind the path of a folder, without a way up, the path leads to a folder or to a source file in
it. -/
inductive Within (w : World) (base : Path) : Path → Prop
  | join {entries : List (String × FileTree)} {sub : Path} {found : FileTree}
      (hbase : w.disk.find? base = some (.folder entries)) (hrelative : sub.isAbsolute = false)
      (hup : ".." ∉ sub.segments) (hfound : w.disk.find? (base.join sub) = some found)
      (hkind : found.item = .folder ∨ (base.join sub).hasExtension sourceExtension = true) :
      Within w base (base.join sub)

/-- The second inputs are the first ones, in any order and number, and more that are inside of
folders among them. -/
def Widens (w : World) (inputs inputs' : List Path) : Prop :=
  inputs ⊆ inputs' ∧ ∀ p ∈ inputs', p ∈ inputs ∨ ∃ base ∈ inputs, w.Within base p

theorem place_eq_none_iff : w.place p = none ↔ w.disk.find? p = none := by
  rw [place]
  split <;> simp_all

/-- A selected path leads to a file. -/
theorem Selects.exists_file (hw : w.disk.top.WellNamed) (h : w.Selects input p) :
    ∃ text, w.disk.find? p = some (.file text) := by
  cases h with
  | file hinput => exact ⟨_, hinput⟩
  | below hinput hstem hfile => exact ⟨_, (hw.leads_below hinput hfile).1⟩

theorem point_not_mem_sourceExtension : '.' ∉ sourceExtension.toList := by
  decide

theorem not_selects_of_missing (hinput : w.disk.find? input = none) : ¬ w.Selects input p := by
  intro h
  cases h with
  | file hfile => rw [hinput] at hfile; cases hfile
  | below hfolder => rw [hinput] at hfolder; cases hfolder

theorem selects_file_iff {text : Option String}
    (hinput : w.disk.find? input = some (.file text)) : w.Selects input p ↔ p = input := by
  constructor
  · intro h
    cases h with
    | file => rfl
    | below hfolder => rw [hinput] at hfolder; cases hfolder
  · intro h
    rw [h]
    exact .file hinput

/-- A folder stands for the files below it whose paths have the extension. -/
theorem selects_folder_iff (hw : w.disk.top.WellNamed) {entries : List (String × FileTree)}
    (hinput : w.disk.find? input = some (.folder entries)) :
    w.Selects input p ↔ p.hasExtension sourceExtension = true ∧
      ∃ names text, (FileTree.folder entries).at? names = some (.file text) ∧
        p = input.below names := by
  constructor
  · intro h
    cases h with
    | file hfile => rw [hinput] at hfile; cases hfile
    | @below _ names stem text hfolder hstem hfile =>
        rw [hinput] at hfolder
        cases hfolder
        refine ⟨(Path.hasExtension_iff point_not_mem_sourceExtension).mpr ⟨stem, hstem, ?_⟩,
          _, text, hfile, rfl⟩
        rw [(hw.leads_below hinput hfile).2]
        simp
  · intro h
    obtain ⟨hextension, names, text, hfile, rfl⟩ := h
    obtain ⟨stem, hstem, hlast⟩ :=
      (Path.hasExtension_iff point_not_mem_sourceExtension).mp hextension
    rcases List.eq_nil_or_concat' names with rfl | ⟨above, last, rfl⟩
    · cases hfile
    · -- The name of the file is the last component.
      rw [(hw.leads_below hinput hfile).2] at hlast
      obtain rfl : last = stem ++ "." ++ sourceExtension := by simpa using hlast
      exact .below hinput hstem hfile

/-- The search from an input finds what the input stands for. -/
theorem mem_sourcesAt_iff (hw : w.disk.top.WellNamed) :
    p ∈ w.sourcesAt input ↔ w.Selects input p := by
  rw [sourcesAt, place]
  cases hinput : w.disk.find? input with
  | none => exact iff_of_false List.not_mem_nil (not_selects_of_missing hinput)
  | some found =>
      cases found with
      | file text => exact List.mem_singleton.trans (selects_file_iff hinput).symm
      | folder entries =>
          show p ∈ ((FileTree.filesOfEntries input entries).map Prod.fst).filter _ ↔ _
          rw [selects_folder_iff hw hinput, List.mem_filter,
            FileTree.mem_paths_iff (hw.of_find? hinput), and_comm]

/-! ### Inputs inside of inputs -/

/-- What is selected inside of a folder is selected from the folder. -/
theorem Within.exists_selects (hw : w.disk.top.WellNamed) (h : w.Within base p)
    (hq : w.Selects p q) : ∃ q', w.Selects base q' ∧ q'.components = q.components := by
  cases h with
  | @join entries sub found hbase hrelative hup hfound hkind =>
      obtain ⟨hne, -⟩ := Disk.find?_eq_some_iff.mp hbase
      have hsub := Disk.at?_steps hbase hrelative hup hfound
      have hjoin := Path.components_join_of_not_up hne hrelative hup
      -- The file is below the folder too, with the steps to the input in front of its names.
      have hbelow : q.hasExtension sourceExtension = true ∧ ∃ names text,
          (FileTree.folder entries).at? names = some (.file text) ∧
            (base.below names).components = q.components := by
        cases found with
        | file text =>
            obtain rfl := (selects_file_iff hfound).mp hq
            exact ⟨hkind.resolve_left nofun, sub.steps, text, hsub,
              (hw.leads_below hbase hsub).2.trans hjoin.symm⟩
        | folder inner =>
            obtain ⟨hextension, names, text, hfile, rfl⟩ := (selects_folder_iff hw hfound).mp hq
            have hall : (FileTree.folder entries).at? (sub.steps ++ names) = some (.file text) := by
              rw [FileTree.at?_append, hsub]
              exact hfile
            refine ⟨hextension, sub.steps ++ names, text, hall, ?_⟩
            rw [(hw.leads_below hbase hall).2, (hw.leads_below hfound hfile).2, hjoin,
              List.map_append, List.append_assoc]
      obtain ⟨hextension, names, text, hfile, hsame⟩ := hbelow
      refine ⟨base.below names, (selects_folder_iff hw hbase).mpr ⟨?_, names, text, hfile, rfl⟩,
        hsame⟩
      rwa [Path.hasExtension_congr hsame]

/-- The components of the paths that are read are those of the paths that are selected. -/
theorem mem_map_components_found_iff (hw : w.disk.top.WellNamed) {cs : List Component} :
    cs ∈ (inputs.flatMap w.sourcesAt).map Path.components ↔
      ∃ input ∈ inputs, ∃ p, w.Selects input p ∧ p.components = cs := by
  simp only [List.mem_map, List.mem_flatMap, mem_sourcesAt_iff hw]
  tauto

/-- More inputs of this kind change nothing but the spelling of paths. -/
theorem Widens.map_components_sources (hw : w.disk.top.WellNamed) (h : w.Widens inputs inputs') :
    (w.sources inputs').map Path.components = (w.sources inputs).map Path.components := by
  refine Path.map_components_sortedUnique_eq fun cs => ?_
  rw [mem_map_components_found_iff hw, mem_map_components_found_iff hw]
  constructor
  · intro hselected
    obtain ⟨input, hinput, p, hp, hcs⟩ := hselected
    rcases h.2 input hinput with hinput | ⟨base, hbase, hwithin⟩
    · exact ⟨input, hinput, p, hp, hcs⟩
    · obtain ⟨q, hq, hsame⟩ := hwithin.exists_selects hw hp
      exact ⟨base, hbase, q, hq, hsame.trans hcs⟩
  · intro hselected
    obtain ⟨input, hinput, hp⟩ := hselected
    exact ⟨input, h.1 hinput, hp⟩

/-- The added inputs are there. -/
theorem Widens.exists_missing_iff (h : w.Widens inputs inputs') :
    (∃ p ∈ inputs', w.disk.find? p = none) ↔ ∃ p ∈ inputs, w.disk.find? p = none := by
  constructor
  · intro hmissing
    obtain ⟨p, hp, hnone⟩ := hmissing
    rcases h.2 p hp with hp | ⟨base, -, ⟨-, -, -, hfound, -⟩⟩
    · exact ⟨p, hp, hnone⟩
    · rw [hnone] at hfound
      cases hfound
  · intro hmissing
    obtain ⟨p, hp, hnone⟩ := hmissing
    exact ⟨p, h.1 hp, hnone⟩

/-! ### Declarations -/

theorem exists_selects_of_mem_sources (hw : w.disk.top.WellNamed) (h : p ∈ w.sources inputs) :
    ∃ input ∈ inputs, w.Selects input p := by
  obtain ⟨input, hinput, hp⟩ := List.mem_flatMap.mp (Path.mem_of_mem_sortedUnique h)
  exact ⟨input, hinput, (mem_sourcesAt_iff hw).mp hp⟩

/-- Paths that are read and have the same components lead to the same text. -/
theorem text_eq_of_components_eq (hw : w.disk.top.WellNamed) (hp : p ∈ w.sources inputs)
    (hq : q ∈ w.sources inputs') (hsame : p.components = q.components) : w.text p = w.text q := by
  obtain ⟨_, _, hp⟩ := exists_selects_of_mem_sources hw hp
  obtain ⟨_, _, hq⟩ := exists_selects_of_mem_sources hw hq
  obtain ⟨text, htext⟩ := hp.exists_file hw
  obtain ⟨text', htext'⟩ := hq.exists_file hw
  rw [World.text, World.text, htext, htext', Disk.find?_eq_of_components_eq htext htext' hsame]

/-- What a file declares does not depend on the path that leads to it. -/
theorem ofText_eq_ok_congr {text : Option String} {interfaces : List Interface} :
    Interface.ofText p text = .ok interfaces ↔ Interface.ofText q text = .ok interfaces := by
  cases text with
  | none => simp [Interface.ofText]
  | some text =>
      rw [Interface.ofText, Interface.ofText]
      cases Rust.readSource? text with
      | none => simp
      | some items =>
          dsimp only
          cases Interface.ofItems items <;> simp [Except.mapError]

theorem declarationsIn_eq (h : w.text p = w.text q) :
    w.declarationsIn p = w.declarationsIn q := by
  rw [declarationsIn, declarationsIn, h]
  cases hq : Interface.ofText q (w.text q) with
  | ok interfaces => rw [ofText_eq_ok_congr.mpr hq]
  | error e =>
      cases hp : Interface.ofText p (w.text q) with
      | ok interfaces =>
          rw [ofText_eq_ok_congr.mp hp] at hq
          cases hq
      | error e => rfl

theorem Widens.declarations_eq (hw : w.disk.top.WellNamed) (h : w.Widens inputs inputs') :
    w.declarations inputs' = w.declarations inputs :=
  flatMap_eq_of_map_eq (h.map_components_sources hw) fun _ hp _ hq hsame =>
    declarationsIn_eq (text_eq_of_components_eq hw hp hq hsame)

/-- Files that are read under other paths can be read all the same. -/
theorem exists_ofText_of_map_components_eq (hw : w.disk.top.WellNamed)
    (hsame : (w.sources inputs').map Path.components = (w.sources inputs).map Path.components)
    (hread : ∀ file ∈ w.sources inputs,
      ∃ interfaces, Interface.ofText file (w.text file) = .ok interfaces) :
    ∀ file ∈ w.sources inputs',
      ∃ interfaces, Interface.ofText file (w.text file) = .ok interfaces := by
  intro file hfile
  obtain ⟨file', hfile', hcomponents⟩ :=
    List.mem_map.mp (hsame ▸ List.mem_map_of_mem (f := Path.components) hfile)
  obtain ⟨interfaces, hok⟩ := hread file' hfile'
  rw [text_eq_of_components_eq hw hfile' hfile hcomponents] at hok
  exact ⟨interfaces, ofText_eq_ok_congr.mp hok⟩

theorem Widens.readable_iff (hw : w.disk.top.WellNamed) (h : w.Widens inputs inputs') :
    w.Readable inputs' ↔ w.Readable inputs := by
  have hsame := h.map_components_sources hw
  have hfound : (∀ p ∈ inputs', w.place p ≠ none) ↔ ∀ p ∈ inputs, w.place p ≠ none := by
    have hmissing := not_congr h.exists_missing_iff
    push Not at hmissing
    simpa [place_eq_none_iff] using hmissing
  constructor
  · intro hreadable
    exact ⟨hfound.mp hreadable.found,
      exists_ofText_of_map_components_eq hw hsame.symm hreadable.read⟩
  · intro hreadable
    exact ⟨hfound.mpr hreadable.found,
      exists_ofText_of_map_components_eq hw hsame hreadable.read⟩

end World

namespace Run

variable {w : World} {inputs inputs' : List Path}

theorem Reads.unique {α : Type} {r : Run (StateM World) α} {x y : Except ToolError α}
    (hx : Reads w r x) (hy : Reads w r y) : x = y :=
  hx.fst_on.symm.trans hy.fst_on

/-- The search fails if and only if an input is missing. -/
theorem exists_reads_error_iff :
    (∃ e, Reads w (sourceFiles inputs) (.error e)) ↔ ∃ p ∈ inputs, w.disk.find? p = none := by
  rcases reads_sourceFiles (w := w) inputs with ⟨hfound, hreads⟩ | ⟨p, hp, hnone, hreads⟩
  · refine iff_of_false (fun herror => ?_) fun hmissing => ?_
    · obtain ⟨e, he⟩ := herror
      cases hreads.unique he
    · obtain ⟨p, hp, hnone⟩ := hmissing
      exact hfound p hp (World.place_eq_none_iff.mpr hnone)
  · exact iff_of_true ⟨_, hreads⟩ ⟨p, hp, World.place_eq_none_iff.mp hnone⟩

theorem eq_sources_of_reads {files : List Path} (h : Reads w (sourceFiles inputs) (.ok files)) :
    files = w.sources inputs := by
  rcases reads_sourceFiles (w := w) inputs with ⟨-, hreads⟩ | ⟨p, -, -, hreads⟩
  · exact Except.ok.inj (h.unique hreads)
  · cases h.unique hreads

/-- What is declared can be read if everything is there and can be read. -/
theorem reads_loadFiles_iff {c : Catalog} :
    Reads w (sourceFiles inputs >>= loadFiles) (.ok c) ↔
      w.Readable inputs ∧ c = Catalog.ofList (w.declarations inputs) := by
  rcases reads_sourceFiles (w := w) inputs with ⟨hfound, hsources⟩ | ⟨p, hp, hnone, hsources⟩
  · rcases reads_loadFiles (w := w) (w.sources inputs) .empty with
      ⟨hread, hload⟩ | ⟨file, hfile, e, he, hload⟩
    · have hall := hsources.bind hload
      constructor
      · intro h
        exact ⟨⟨hfound, hread⟩, Except.ok.inj (h.unique hall)⟩
      · intro h
        rw [h.2]
        exact hall
    · refine iff_of_false (fun h => ?_) fun h => ?_
      · cases h.unique (hsources.bind hload)
      · exact World.Hinders.not_readable (.inr ⟨file, hfile, he⟩) h.1
  · refine iff_of_false (fun h => ?_) fun h => ?_
    · cases h.unique hsources.bind_error
    · exact h.1.found p hp hnone

/-- **Selection of source files.** The search fails if and only if an input is missing. Else it
finds the inputs that are files, and the files with the extension of source files at any depth below
the inputs that are folders, and nothing else. The paths go strictly up by their components. Of
several declarations of a name the last one counts. None of this depends on the order of the inputs
or on repetitions, and inputs inside of folders that are inputs anyway add nothing unless their
paths lead up on the way: all paths keep their components, and the declarations are the same. -/
theorem sourceFiles_select (hw : w.disk.top.WellNamed) (inputs : List Path) :
    ((∃ e, Reads w (sourceFiles inputs) (.error e)) ↔ ∃ p ∈ inputs, w.disk.find? p = none) ∧
    ((∀ p ∈ inputs, w.disk.find? p ≠ none) → ∃ files,
      Reads w (sourceFiles inputs) (.ok files) ∧
      (files.Pairwise fun p q => List.Lex Component.Before p.components q.components) ∧
      (∀ p ∈ files, ∃ input ∈ inputs, w.Selects input p) ∧
      (∀ input ∈ inputs, ∀ p, w.Selects input p → ∃ q ∈ files, q.components = p.components) ∧
      ∀ c, Reads w (sourceFiles inputs >>= loadFiles) (.ok c) → ∀ name, c.find? name =
        ((files.flatMap w.declarationsIn).filter fun i => i.name == name).getLast?) ∧
    ∀ inputs', w.Widens inputs inputs' →
      ((∃ e, Reads w (sourceFiles inputs') (.error e)) ↔
        ∃ e, Reads w (sourceFiles inputs) (.error e)) ∧
      (∀ files files', Reads w (sourceFiles inputs) (.ok files) →
        Reads w (sourceFiles inputs') (.ok files') →
        files'.map Path.components = files.map Path.components) ∧
      ∀ c, Reads w (sourceFiles inputs' >>= loadFiles) (.ok c) ↔
        Reads w (sourceFiles inputs >>= loadFiles) (.ok c) := by
  refine ⟨exists_reads_error_iff, fun hfound => ?_, fun inputs' hwidens => ⟨?_, ?_, fun c => ?_⟩⟩
  · have hreads : Reads w (sourceFiles inputs) (.ok (w.sources inputs)) :=
      reads_sourceFiles_of_found fun p hp hnone => hfound p hp (World.place_eq_none_iff.mp hnone)
    refine ⟨w.sources inputs, hreads, Path.pairwise_sortedUnique _,
      fun p hp => World.exists_selects_of_mem_sources hw hp, ?_, ?_⟩
    · intro input hinput p hp
      have hmem := (World.mem_sourcesAt_iff hw).mpr hp
      exact Path.exists_mem_sortedUnique (List.mem_flatMap.mpr ⟨input, hinput, hmem⟩)
    · intro c hc name
      rw [(reads_loadFiles_iff.mp hc).2, Catalog.find?_ofList]
      rfl
  · rw [exists_reads_error_iff, exists_reads_error_iff, hwidens.exists_missing_iff]
  · intro files files' hfiles hfiles'
    rw [eq_sources_of_reads hfiles, eq_sources_of_reads hfiles']
    exact hwidens.map_components_sources hw
  · rw [reads_loadFiles_iff, reads_loadFiles_iff, hwidens.readable_iff hw,
      hwidens.declarations_eq hw]

/-- A folder with a folder in it, a name that is nothing but an extension, and names that come in
another order as texts. -/
def layeredWorld : World :=
  .ofFolder (.folder [("src", .folder [("a.rs", .file (some "")), ("a-b.rs", .file (some "")),
    ("a", .folder [("b.rs", .file (some ""))]), (".rs", .file (some ""))]),
    ("notes", .file (some ""))])

/-- A folder and a file. -/
def layeredInputs : List Path :=
  [⟨"src"⟩, ⟨"notes"⟩]

/-- The same inputs in another order, one of them twice, and a folder and a file in the folder. -/
def widerInputs : List Path :=
  [⟨"notes"⟩, ⟨"src/a"⟩, ⟨"src"⟩, ⟨"src/a.rs"⟩, ⟨"notes"⟩]

theorem wellNamed_layeredWorld : layeredWorld.disk.top.WellNamed := by
  simp [layeredWorld, World.ofFolder, FileTree.wellNamed_folder_iff, FileTree.WellNamed.file,
    FileTree.IsJoinable, IsEntryName]

theorem widens_layeredInputs : layeredWorld.Widens layeredInputs widerInputs := by
  have hfolder : layeredWorld.disk.find? ⟨"src"⟩ = some _ := rfl
  have hinner : layeredWorld.Within ⟨"src"⟩ (Path.join ⟨"src"⟩ ⟨"a"⟩) :=
    .join hfolder (by decide) (by decide) rfl (.inl rfl)
  have hfile : layeredWorld.Within ⟨"src"⟩ (Path.join ⟨"src"⟩ ⟨"a.rs"⟩) :=
    .join hfolder (by decide) (by decide) rfl (.inr (by decide))
  refine ⟨by decide, fun p hp => ?_⟩
  simp only [widerInputs, List.mem_cons, List.not_mem_nil, or_false] at hp
  rcases hp with rfl | rfl | rfl | rfl | rfl
  · exact .inl (by decide)
  · exact .inr ⟨⟨"src"⟩, by decide, hinner⟩
  · exact .inl (by decide)
  · exact .inr ⟨⟨"src"⟩, by decide, hfile⟩
  · exact .inl (by decide)

/-- The search finds what is below the folder, but not the name that is only an extension, and it
finds the same from the other inputs. -/
theorem sourceFiles_select_layeredWorld :
    ∃ files files', Reads layeredWorld (sourceFiles layeredInputs) (.ok files) ∧
      Reads layeredWorld (sourceFiles widerInputs) (.ok files') ∧
      files'.map Path.components = files.map Path.components ∧
      (∃ p ∈ files, p.components = [.name "notes"]) ∧
      (∃ p ∈ files, p.components = [.name "src", .name "a", .name "b.rs"]) ∧
      ∀ p ∈ files, p.components ≠ [.name "src", .name ".rs"] := by
  have hw := wellNamed_layeredWorld
  have hfolder : layeredWorld.disk.find? ⟨"src"⟩ = some _ := rfl
  have hfile : layeredWorld.disk.find? ⟨"notes"⟩ = some _ := rfl
  have hfound : ∀ p ∈ layeredInputs, layeredWorld.disk.find? p ≠ none := by
    simp [layeredInputs, hfolder, hfile]
  obtain ⟨-, hselect, hwiden⟩ := sourceFiles_select hw layeredInputs
  obtain ⟨files, hfiles, -, hsound, hcomplete, -⟩ := hselect hfound
  obtain ⟨-, hsame, -⟩ := hwiden widerInputs widens_layeredInputs
  have hwider : Reads layeredWorld (sourceFiles widerInputs)
      (.ok (layeredWorld.sources widerInputs)) := by
    refine reads_sourceFiles_of_found fun p hp hnone => ?_
    obtain ⟨p, hp, hnone⟩ := widens_layeredInputs.exists_missing_iff.mp
      ⟨p, hp, World.place_eq_none_iff.mp hnone⟩
    exact hfound p hp hnone
  refine ⟨files, _, hfiles, hwider, hsame _ _ hfiles hwider, ?_, ?_, ?_⟩
  · exact hcomplete ⟨"notes"⟩ (by decide) ⟨"notes"⟩ (.file hfile)
  · have hselects : layeredWorld.Selects ⟨"src"⟩ (Path.below ⟨"src"⟩ ["a", "b.rs"]) :=
      (World.selects_folder_iff hw hfolder).mpr ⟨by decide, ["a", "b.rs"], _, rfl, rfl⟩
    exact hcomplete ⟨"src"⟩ (by decide) _ hselects
  · intro p hp hcomponents
    obtain ⟨input, hinput, hselects⟩ := hsound p hp
    rcases List.mem_pair.mp hinput with rfl | rfl
    · have hextension := ((World.selects_folder_iff hw hfolder).mp hselects).1
      rw [Path.hasExtension_congr (q := ⟨"src/.rs"⟩) (hcomponents.trans (by decide))] at hextension
      exact absurd hextension (by decide)
    · cases hselects with
      | file => exact absurd hcomponents (by decide)
      | below h => cases h

/-- Two files in folders of their own that declare one trait, and an empty folder beside them. -/
def detourWorld : World :=
  .ofFolder (.folder [("src", .folder
    [("a", .folder [("x.rs", .file (some "#[client] trait Api \x7b\x7d"))]),
      ("b", .folder [("y.rs", .file (some "trait Api \x7b\x7d"))]), ("c", .folder [])])])

/-- The folder of the first file, reached through the empty folder and up again. -/
def detour : Path :=
  Path.join ⟨"src"⟩ ⟨"c/../a"⟩

theorem sources_detourWorld :
    detourWorld.sources [⟨"src"⟩] = [⟨"src/a/x.rs"⟩, ⟨"src/b/y.rs"⟩] ∧
    detourWorld.sources [⟨"src"⟩, detour] =
      [⟨"src/a/x.rs"⟩, ⟨"src/b/y.rs"⟩, ⟨"src/c/../a/x.rs"⟩] := by
  have hfound : [⟨"src"⟩, detour].flatMap detourWorld.sourcesAt =
      [⟨"src/a/x.rs"⟩, ⟨"src/b/y.rs"⟩, ⟨"src/c/../a/x.rs"⟩] := by decide +kernel
  have hfolder : [⟨"src"⟩].flatMap detourWorld.sourcesAt =
      [⟨"src/a/x.rs"⟩, ⟨"src/b/y.rs"⟩] := by decide +kernel
  rw [World.sources, World.sources, hfound, hfolder, Path.sortedUnique, Path.sortedUnique,
    List.mergeSort_of_pairwise (by decide +kernel), List.mergeSort_of_pairwise (by decide +kernel)]
  decide +kernel

theorem readable_detourWorld :
    detourWorld.Readable [⟨"src"⟩] ∧ detourWorld.Readable [⟨"src"⟩, detour] := by
  obtain ⟨hfolder, hboth⟩ := sources_detourWorld
  have hread : ∀ file ∈ detourWorld.sources [⟨"src"⟩, detour],
      ∃ interfaces, Interface.ofText file (detourWorld.text file) = .ok interfaces := by
    rw [hboth]
    simp only [List.forall_mem_cons]
    exact ⟨⟨[⟨"Api", true, [], .unset, [], []⟩], by decide +kernel⟩,
      ⟨[⟨"Api", false, [], .unset, [], []⟩], by decide +kernel⟩,
      ⟨[⟨"Api", true, [], .unset, [], []⟩], by decide +kernel⟩, nofun⟩
  refine ⟨⟨by decide +kernel, fun file hfile => hread file ?_⟩, ⟨by decide +kernel, hread⟩⟩
  rw [hfolder] at hfile
  rw [hboth]
  exact List.mem_append_left [⟨"src/c/../a/x.rs"⟩] hfile

/-- A folder inside of an input adds files if its path leads up on the way: the file has another
path then, and it is read once more behind the other one, so that another declaration counts. -/
theorem sourceFiles_detourWorld_ne :
    detourWorld.disk.top.WellNamed ∧
    detourWorld.disk.locate? ⟨"src"⟩ = some ["work", "src"] ∧
    detourWorld.disk.locate? detour = some ["work", "src", "a"] ∧
    (detourWorld.disk.find? detour).map FileTree.item = some .folder ∧
    (∃ files files', Reads detourWorld (sourceFiles [⟨"src"⟩]) (.ok files) ∧
      Reads detourWorld (sourceFiles [⟨"src"⟩, detour]) (.ok files') ∧
      files'.map Path.components ≠ files.map Path.components) ∧
    ∃ c c', Reads detourWorld (sourceFiles [⟨"src"⟩] >>= loadFiles) (.ok c) ∧
      Reads detourWorld (sourceFiles [⟨"src"⟩, detour] >>= loadFiles) (.ok c') ∧
      (c.find? "Api").map Interface.isClient = some false ∧
      (c'.find? "Api").map Interface.isClient = some true := by
  obtain ⟨hfolder, hboth⟩ := sources_detourWorld
  obtain ⟨hreadable, hreadable'⟩ := readable_detourWorld
  have hw : detourWorld.disk.top.WellNamed := by
    simp [detourWorld, World.ofFolder, FileTree.wellNamed_folder_iff, FileTree.WellNamed.file,
      FileTree.IsJoinable, IsEntryName]
  refine ⟨hw, by decide +kernel, by decide +kernel, by decide +kernel,
    ⟨_, _, reads_sourceFiles_of_found hreadable.found, reads_sourceFiles_of_found hreadable'.found,
      ?_⟩,
    _, _, reads_loadFiles_iff.mpr ⟨hreadable, rfl⟩, reads_loadFiles_iff.mpr ⟨hreadable', rfl⟩,
    ?_, ?_⟩
  · rw [hfolder, hboth]
    decide +kernel
  · rw [World.declarations, hfolder]
    decide +kernel
  · rw [World.declarations, hboth]
    decide +kernel

end Run

end ClientTraits
