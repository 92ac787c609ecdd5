import Mathlib.Data.List.TakeWhile
import ClientTraits.Proofs.Declaration.Order
import ClientTraits.Tool.Run
import ClientTraits.Tool.World

/-!
# What a run reads

Up to the reports a run only looks at files and logs, so that they are a function of the files.
`World.sources` are the files that it reads, and `World.declarations` is what they declare. If all
inputs are there and all source files can be read (`World.Readable`), the run comes to the reports
of these declarations; else it stops at something that stands against that (`reads_reports`).

## Proof shape

`Run.Reads` says that a part of a run comes to a result and changes no file. Its rules follow the
ways in which runs are put together, and the two loops over inputs and over files are inductions
with these rules.
-/

namespace ClientTraits

/-! ### Runs that change no file -/

namespace Run

variable {α β : Type} {w : World}

/-- What a part of a run comes to in a world, and the world behind it. -/
def on (r : Run (StateM World) α) (w : World) : Except ToolError α × World :=
  StateT.run (ExceptT.run r) w

/-- The part of a run leaves all files as they are and comes to `x`, whatever was logged before. -/
def Reads (w : World) (r : Run (StateM World) α) (x : Except ToolError α) : Prop :=
  ∀ log, ∃ log', r.on ⟨w.disk, log⟩ = (x, ⟨w.disk, log'⟩)

section Bind

variable {r : Run (StateM World) α} {f : α → Run (StateM World) β} {w' : World}

theorem on_bind_of_ok {a : α} (h : r.on w = (.ok a, w')) : (r >>= f).on w = (f a).on w' := by
  rw [on, ExceptT.run_bind, StateT.run_bind, show StateT.run r.run w = _ from h]
  rfl

theorem on_bind_of_error {e : ToolError} (h : r.on w = (.error e, w')) :
    (r >>= f).on w = (.error e, w') := by
  rw [on, ExceptT.run_bind, StateT.run_bind, show StateT.run r.run w = _ from h]
  rfl

theorem on_tellAll (events : List Event) (w : World) :
    (tellAll events : Run (StateM World) Unit).on w = (.ok (), ⟨w.disk, w.log ++ events⟩) := by
  induction events generalizing w with
  | nil => rw [List.append_nil]; rfl
  | cons e rest ih =>
      have htell : (tell e : Run (StateM World) Unit).on w = (.ok (), ⟨w.disk, w.log ++ [e]⟩) := rfl
      refine (on_bind_of_ok htell).trans ((ih _).trans ?_)
      rw [List.append_assoc]
      rfl

/-- A result is there, and its events are logged. -/
theorem on_logged (l : Logged α) (w : World) :
    (logged l : Run (StateM World) α).on w = (.ok l.value, ⟨w.disk, w.log ++ l.events⟩) :=
  on_bind_of_ok (on_tellAll l.events w)

namespace Reads

theorem bind {a : α} {x : Except ToolError β} (h : Reads w r (.ok a)) (hf : Reads w (f a) x) :
    Reads w (r >>= f) x := by
  intro log
  obtain ⟨log', hr⟩ := h log
  obtain ⟨log'', hfa⟩ := hf log'
  exact ⟨log'', (on_bind_of_ok hr).trans hfa⟩

theorem bind_error {e : ToolError} (h : Reads w r (.error e)) : Reads w (r >>= f) (.error e) := by
  intro log
  obtain ⟨log', hr⟩ := h log
  exact ⟨log', on_bind_of_error hr⟩

end Reads

end Bind

namespace Reads

theorem fst_on {r : Run (StateM World) α} {x : Except ToolError α} (h : Reads w r x) :
    (r.on w).1 = x := by
  obtain ⟨log, hrun⟩ := h w.log
  exact congrArg Prod.fst hrun

theorem pure (a : α) : Reads w (Pure.pure a) (.ok a) :=
  fun log => ⟨log, rfl⟩

theorem throw (e : ToolError) : Reads w (MonadExcept.throw e : Run (StateM World) α) (.error e) :=
  fun log => ⟨log, rfl⟩

theorem tell (e : Event) : Reads w (Run.tell e) (.ok ()) :=
  fun log => ⟨log ++ [e], rfl⟩

/-- What is at a path depends on the files only. -/
theorem place (p : Path) :
    Reads w (ExceptT.lift (Host.place p : StateM World (Option Place))) (.ok (w.place p)) :=
  fun log => ⟨log, rfl⟩

/-- The text of a file depends on the files only. -/
theorem text (p : Path) :
    Reads w (ExceptT.lift (Host.text p : StateM World (Option String))) (.ok (w.text p)) :=
  fun log => ⟨log, rfl⟩

theorem tellAll (events : List Event) : Reads w (Run.tellAll events) (.ok ()) :=
  fun log => ⟨log ++ events, on_tellAll events _⟩

theorem logged (l : Logged α) : Reads w (Run.logged l) (.ok l.value) :=
  fun log => ⟨log ++ l.events, on_logged l _⟩

end Reads

end Run

/-! ### What there is to read -/

namespace World

/-- The source files that an input stands for; none if it is not there. -/
def sourcesAt (w : World) (input : Path) : List Path :=
  ((w.place input).map (Place.sources input)).getD []

/-- The source files that all inputs stand for, in the order in which they are read. -/
def sources (w : World) (inputs : List Path) : List Path :=
  Path.sortedUnique (inputs.flatMap w.sourcesAt)

/-- What a source file declares; nothing if it cannot be read. -/
def declarationsIn (w : World) (file : Path) : List Interface :=
  match Interface.ofText file (w.text file) with
  | .ok interfaces => interfaces
  | .error _ => []

/-- Why a source file cannot be read. -/
def hindranceIn (w : World) (file : Path) : Option ToolError :=
  match Interface.ofText file (w.text file) with
  | .ok _ => none
  | .error e => some e

/-- The source files in front of the first one that cannot be read. -/
def readFirst (w : World) (files : List Path) : List Path :=
  files.takeWhile fun file => (w.hindranceIn file).isNone

/-- The catalog with what a source file declares. -/
def declareFrom (w : World) (c : Catalog) (file : Path) : Logged Catalog :=
  c.declareAll file (w.declarationsIn file)

/-- What all source files declare, in the order in which it is read. -/
def declarations (w : World) (inputs : List Path) : List Interface :=
  (w.sources inputs).flatMap w.declarationsIn

/-- The reports for all clients that are declared. -/
def reports (w : World) (inputs : List Path) : List Report :=
  (Catalog.ofList (w.declarations inputs)).resolveAll.value

/-- All inputs are there, and all source files can be read. -/
structure Readable (w : World) (inputs : List Path) : Prop where
  found : ∀ p ∈ inputs, w.place p ≠ none
  read : ∀ file ∈ w.sources inputs,
    ∃ interfaces, Interface.ofText file (w.text file) = .ok interfaces

/-- The error is that of an input that is not there or of a source file that cannot be read. -/
def Hinders (w : World) (inputs : List Path) (e : ToolError) : Prop :=
  (∃ p ∈ inputs, w.place p = none ∧ e = .missingInput p) ∨
    ∃ file ∈ w.sources inputs, Interface.ofText file (w.text file) = .error e

theorem Hinders.not_readable {w : World} {inputs : List Path} {e : ToolError}
    (h : w.Hinders inputs e) : ¬ w.Readable inputs := by
  intro hreadable
  rcases h with ⟨p, hp, hnone, -⟩ | ⟨file, hfile, he⟩
  · exact hreadable.found p hp hnone
  · obtain ⟨interfaces, hok⟩ := hreadable.read file hfile
    rw [hok] at he
    cases he

end World

/-! ### Reading it -/

theorem Catalog.value_declare (file : Path) (c : Catalog) (i : Interface) :
    (c.declare file i).value = c.insert i := by
  rw [declare, exchange_eq]
  dsimp only
  split <;> rfl

/-- Events apart, the declarations of a file are inserted one by one. -/
theorem Catalog.value_declareAll (file : Path) (c : Catalog) (interfaces : List Interface) :
    (c.declareAll file interfaces).value = interfaces.foldl insert c := by
  show (interfaces.foldlM (declare file) c).value = _
  induction interfaces generalizing c with
  | nil => rfl
  | cons i rest ih =>
      rw [List.foldlM_cons, Logged.value_bind, ih, value_declare, List.foldl_cons]

theorem World.value_foldlM_declareFrom (w : World) (files : List Path) (c : Catalog) :
    (files.foldlM w.declareFrom c).value =
      (files.flatMap w.declarationsIn).foldl Catalog.insert c := by
  induction files generalizing c with
  | nil => rfl
  | cons file rest ih =>
      rw [List.foldlM_cons, Logged.value_bind, ih, declareFrom, Catalog.value_declareAll,
        List.flatMap_cons, List.foldl_append]

namespace Run

variable {w : World}

/-- All inputs are there, or the search stops at one that is not. -/
theorem reads_mapM_sourcesAt (inputs : List Path) :
    (∀ p ∈ inputs, w.place p ≠ none) ∧
        Reads w (inputs.mapM sourcesAt) (.ok (inputs.map w.sourcesAt)) ∨
      ∃ p ∈ inputs, w.place p = none ∧
        Reads w (inputs.mapM sourcesAt) (.error (.missingInput p)) := by
  induction inputs with
  | nil => exact Or.inl ⟨fun _ h => absurd h List.not_mem_nil, .pure []⟩
  | cons input rest ih =>
      rw [List.mapM_cons]
      cases hplace : w.place input with
      | none =>
          have hinput : Reads w (sourcesAt input) (.error (.missingInput input)) :=
            (Reads.place input).bind (by rw [hplace]; exact .throw _)
          exact Or.inr ⟨input, List.mem_cons_self, hplace, hinput.bind_error⟩
      | some place =>
          have hinput : Reads w (sourcesAt input) (.ok (w.sourcesAt input)) :=
            (Reads.place input).bind (by rw [World.sourcesAt, hplace]; exact .pure _)
          rcases ih with ⟨hfound, hrest⟩ | ⟨p, hp, hnone, hrest⟩
          · refine Or.inl ⟨List.forall_mem_cons.mpr ⟨by simp [hplace], hfound⟩, ?_⟩
            exact hinput.bind (hrest.bind (.pure _))
          · exact Or.inr ⟨p, List.mem_cons_of_mem input hp, hnone, hinput.bind hrest.bind_error⟩

theorem reads_sourceFiles (inputs : List Path) :
    (∀ p ∈ inputs, w.place p ≠ none) ∧ Reads w (sourceFiles inputs) (.ok (w.sources inputs)) ∨
      ∃ p ∈ inputs, w.place p = none ∧ Reads w (sourceFiles inputs) (.error (.missingInput p)) := by
  rcases reads_mapM_sourcesAt inputs with ⟨hfound, hsearch⟩ | ⟨p, hp, hnone, hsearch⟩
  · refine Or.inl ⟨hfound, ?_⟩
    rw [World.sources, List.flatMap_def]
    exact hsearch.bind (.pure _)
  · exact Or.inr ⟨p, hp, hnone, hsearch.bind_error⟩

theorem reads_sourceFiles_of_found {inputs : List Path} (h : ∀ p ∈ inputs, w.place p ≠ none) :
    Reads w (sourceFiles inputs) (.ok (w.sources inputs)) := by
  rcases reads_sourceFiles (w := w) inputs with ⟨-, hreads⟩ | ⟨p, hp, hnone, -⟩
  · exact hreads
  · exact absurd hnone (h p hp)

theorem on_loadFile (log : List Event) (c : Catalog) (file : Path) :
    (loadFile c file).on ⟨w.disk, log⟩ =
      match w.hindranceIn file with
      | none => (.ok (w.declareFrom c file).value,
          ⟨w.disk, log ++ (w.declareFrom c file).events⟩)
      | some e => (.error e, ⟨w.disk, log⟩) := by
  have htext : Run.on (ExceptT.lift (Host.text file : StateM World (Option String)))
      ⟨w.disk, log⟩ = (.ok (w.text file), ⟨w.disk, log⟩) := rfl
  rw [loadFile]
  refine (on_bind_of_ok htext).trans ?_
  rw [World.hindranceIn, World.declareFrom, World.declarationsIn]
  cases Interface.ofText file (w.text file) with
  | error e => rfl
  | ok interfaces => exact on_logged _ _

/-- **Reading source files.** The files are read until there is one that cannot be read. What is
told is what there is to tell about the declarations in the files that were read. -/
theorem on_foldlM_loadFile (files : List Path) (log : List Event) (c : Catalog) :
    (files.foldlM loadFile c).on ⟨w.disk, log⟩ =
      (match files.findSome? w.hindranceIn with
        | none => .ok ((w.readFirst files).foldlM w.declareFrom c).value
        | some e => .error e,
        ⟨w.disk, log ++ ((w.readFirst files).foldlM w.declareFrom c).events⟩) := by
  induction files generalizing log c with
  | nil => exact congrArg (fun l => (Except.ok c, (⟨w.disk, l⟩ : World))) (List.append_nil log).symm
  | cons file rest ih =>
      have hfile := on_loadFile (w := w) log c file
      rw [List.foldlM_cons, World.readFirst]
      cases hhindrance : w.hindranceIn file with
      | some e =>
          rw [hhindrance] at hfile
          rw [on_bind_of_error hfile, List.findSome?_cons_of_isSome (by simp [hhindrance]), hhindrance,
            List.takeWhile_cons_of_neg (by simp [hhindrance])]
          show _ = (_, (⟨w.disk, log ++ []⟩ : World))
          rw [List.append_nil]
      | none =>
          rw [hhindrance] at hfile
          rw [on_bind_of_ok hfile, ih, List.findSome?_cons_of_isNone (by simp [hhindrance]),
            List.takeWhile_cons_of_pos (by simp [hhindrance]), List.foldlM_cons,
            Logged.value_bind, Logged.events_bind, List.append_assoc]
          rfl

/-- All files can be read, or reading stops at one that cannot. -/
theorem reads_loadFiles (files : List Path) (c : Catalog) :
    (∀ file ∈ files, ∃ interfaces, Interface.ofText file (w.text file) = .ok interfaces) ∧
      Reads w (files.foldlM loadFile c)
        (.ok ((files.flatMap w.declarationsIn).foldl Catalog.insert c)) ∨
    ∃ file ∈ files, ∃ e, Interface.ofText file (w.text file) = .error e ∧
      Reads w (files.foldlM loadFile c) (.error e) := by
  have hload := fun log => on_foldlM_loadFile (w := w) files log c
  cases hhindrance : files.findSome? w.hindranceIn with
  | none =>
      rw [hhindrance] at hload
      rw [List.findSome?_eq_none_iff] at hhindrance
      have hall : w.readFirst files = files :=
        List.takeWhile_eq_self_iff.mpr fun file hfile => by simp [hhindrance file hfile]
      rw [hall, World.value_foldlM_declareFrom] at hload
      refine Or.inl ⟨fun file hfile => ?_, fun log => ⟨_, hload log⟩⟩
      have hnone := hhindrance file hfile
      rw [World.hindranceIn] at hnone
      split at hnone
      · next interfaces hread => exact ⟨interfaces, hread⟩
      · cases hnone
  | some e =>
      rw [hhindrance] at hload
      obtain ⟨file, hfile, he⟩ := List.exists_of_findSome?_eq_some hhindrance
      rw [World.hindranceIn] at he
      split at he
      · cases he
      · next e' hread =>
          cases he
          exact Or.inr ⟨file, hfile, e, hread, fun log => ⟨_, hload log⟩⟩

/-- Everything can be read and a run comes to the reports of what it reads, or it stops at something
that cannot be read. No file is changed. -/
theorem reads_reports (w : World) (inputs : List Path) :
    w.Readable inputs ∧ Reads w (reports inputs) (.ok (w.reports inputs)) ∨
      ∃ e, w.Hinders inputs e ∧ Reads w (reports inputs) (.error e) := by
  rcases reads_sourceFiles inputs with ⟨hfound, hsources⟩ | ⟨p, hp, hnone, hsources⟩
  · rcases reads_loadFiles (w.sources inputs) .empty with
      ⟨hread, hload⟩ | ⟨file, hfile, e, he, hload⟩
    · refine Or.inl ⟨⟨hfound, hread⟩, hsources.bind ((Reads.tell _).bind (hload.bind ?_))⟩
      exact (Reads.logged _).bind ((Reads.tellAll _).bind (.pure _))
    · exact Or.inr ⟨e, Or.inr ⟨file, hfile, he⟩,
        hsources.bind ((Reads.tell _).bind hload.bind_error)⟩
  · exact Or.inr ⟨_, Or.inl ⟨p, hp, hnone, rfl⟩, hsources.bind_error⟩

end Run

end ClientTraits
