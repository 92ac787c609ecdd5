import Mathlib.Algebra.GroupWithZero.Nat
import Mathlib.Control.Monad.Basic
import ClientTraits.Proofs.Files.Tree
import ClientTraits.Proofs.Tool.Sources

/-!
# What a run leaves behind

A run changes nothing unless everything could be read, and then it changes one file
(`withSettings_all_or_nothing`). Whether failures matter decides how the run ends, but not what it
leaves behind.

## Proof shape

A run is what it does, and then a verdict on its counts (`withSettings_eq`). What it does is to come
to the reports, which changes no file (`Run.reads_reports`), and then to write them
(`Run.on_writeOutput`).
-/

namespace ClientTraits

/-! ### Counts -/

/-- A run counts the failures of all its reports. -/
theorem Summary.failures_ofReports (reports : List Report) :
    (ofReports reports).failures =
      (reports.map fun r => r.failures.length + r.graphErrors.length).sum := by
  induction reports with
  | nil => rfl
  | cons r rest ih =>
      rw [List.map_cons, List.sum_cons, ← ih]
      rfl

theorem Summary.failures_ofReports_pos_iff (reports : List Report) :
    0 < (ofReports reports).failures ↔ ∃ r ∈ reports, r.failures ≠ [] ∨ r.graphErrors ≠ [] := by
  induction reports with
  | nil => simp [ofReports]
  | cons r rest ih =>
      simp only [List.mem_cons, exists_eq_or_imp, ← ih]
      rw [← List.length_pos_iff, ← List.length_pos_iff]
      show 0 < r.failures.length + r.graphErrors.length + _ ↔ _
      omega

namespace Run

variable {w : World}

/-! ### Writing -/

theorem on_require (attempt : StateM World Bool) (e : ToolError) (w : World) :
    (require attempt e).on w =
      (if (attempt.run w).1 then .ok () else .error e, (attempt.run w).2) := by
  have hattempt : Run.on (ExceptT.lift attempt) w = (.ok (attempt.run w).1, (attempt.run w).2) :=
    rfl
  refine (on_bind_of_ok hattempt).trans ?_
  cases (attempt.run w).1 <;> rfl

theorem on_require_makeFolder (p : Path) (e : ToolError) (d : Disk) (log : List Event) :
    (require (m := StateM World) (Host.makeFolder p) e).on ⟨d, log⟩ =
      (if (d.makeFolder p).2 then .ok () else .error e, ⟨(d.makeFolder p).1, log⟩) :=
  on_require ..

theorem on_require_write (p : Path) (text : String) (e : ToolError) (d : Disk)
    (log : List Event) :
    (require (m := StateM World) (Host.write p text) e).on ⟨d, log⟩ =
      match d.write? p text with
      | some d' => (.ok (), ⟨d', log⟩)
      | none => (.error e, ⟨d, log⟩) := by
  refine (on_require ..).trans ?_
  show (if (World.write ⟨d, log⟩ p text).1 then Except.ok () else .error e,
    (World.write ⟨d, log⟩ p text).2) = _
  rw [World.write]
  cases d.write? p text <;> rfl

/-- A file that is written is found at its path, and no other place is changed. -/
theorem on_require_write_of_ok {p : Path} {text : String} {e : ToolError}
    (h : ((require (m := StateM World) (Host.write p text) e).on w).1 = .ok ()) :
    ∃ d, (∀ log, (require (m := StateM World) (Host.write p text) e).on ⟨w.disk, log⟩ =
        (.ok (), ⟨d, log⟩)) ∧
      d.find? p = some (.file (some text)) ∧ d.home = w.disk.home ∧
      ∀ names, d.locate? p ≠ some names → d.top.itemAt? names = w.disk.top.itemAt? names := by
  have hwrite := on_require_write p text e w.disk
  cases hdisk : w.disk.write? p text with
  | none =>
      rw [hdisk] at hwrite
      rw [hwrite] at h
      cases h
  | some d =>
      rw [hdisk] at hwrite
      exact ⟨d, hwrite, Disk.write?_spec hdisk⟩

theorem writeOutput_eq (p : Path) (text : String) :
    writeOutput (m := StateM World) p text =
      match p.parent? with
      | some folder => require (Host.makeFolder folder) (.noFolder folder) >>= fun _ =>
          require (Host.write p text) (.unwritable p)
      | none => require (Host.write p text) (.unwritable p) := by
  unfold writeOutput
  cases p.parent? <;> rfl

/-- An output that is written is found at its path. No other file is changed; there may be more
folders. What is logged does not matter. -/
theorem on_writeOutput_of_ok {p : Path} {text : String}
    (h : ((writeOutput p text).on w).1 = .ok ()) :
    ∃ d, (∀ log, (writeOutput p text).on ⟨w.disk, log⟩ = (.ok (), ⟨d, log⟩)) ∧
      d.find? p = some (.file (some text)) ∧ d.home = w.disk.home ∧
      ∀ names, d.locate? p ≠ some names →
        d.top.itemAt? names = w.disk.top.itemAt? names ∨
          w.disk.top.itemAt? names = none ∧ d.top.itemAt? names = some .folder := by
  rw [writeOutput_eq] at h ⊢
  cases hparent : p.parent? with
  | none =>
      rw [hparent] at h
      obtain ⟨d, hrun, hfind, hhome, helse⟩ := on_require_write_of_ok h
      exact ⟨d, hrun, hfind, hhome, fun names hne => Or.inl (helse names hne)⟩
  | some folder =>
      rw [hparent] at h
      dsimp only at h ⊢
      have hfolder := on_require_makeFolder folder (.noFolder folder) w.disk
      cases hmade : (w.disk.makeFolder folder).2 with
      | false =>
          rw [hmade] at hfolder
          rw [on_bind_of_error (hfolder w.log)] at h
          cases h
      | true =>
          rw [hmade] at hfolder
          rw [on_bind_of_ok (hfolder w.log)] at h
          obtain ⟨hadds, hmadeHome⟩ := w.disk.addsFolders_makeFolder folder
          obtain ⟨d, hrun, hfind, hhome, helse⟩ := on_require_write_of_ok h
          refine ⟨d, fun log => (on_bind_of_ok (hfolder log)).trans (hrun log), hfind,
            hhome.trans hmadeHome, ?_⟩
          intro names hne
          rw [helse names hne]
          exact hadds names

/-! ### A run as a whole -/

/-- What a run does, with its counts, before they are judged. -/
def produce (s : Settings) : Run (StateM World) Summary := do
  let reports ← reports s.inputs
  writeOutput s.output (renderReports reports s.pretty)
  let summary := Summary.ofReports reports
  tell (.written summary.endpoints summary.clients s.output.text)
  return summary

/-- How a run ends with its counts: failures are an error if they matter. -/
def verdict (s : Settings) (summary : Summary) : Except ToolError Summary :=
  if s.strict && summary.failures > 0 then .error (.unresolved summary.failures s.output)
  else .ok summary

/-- A run is judged by its counts when all is done. -/
theorem on_withSettings (s : Settings) (w : World) :
    (withSettings s).on w = (((produce s).on w).1 >>= verdict s, ((produce s).on w).2) := by
  have hsplit : withSettings s = produce s >>= fun summary =>
      if s.strict && summary.failures > 0 then throw (.unresolved summary.failures s.output)
      else pure summary := by
    simp only [withSettings, produce, bind_assoc, pure_bind]
    rfl
  rw [hsplit]
  cases hproduce : (produce s).on w with
  | mk x w' =>
      cases x with
      | error e => exact on_bind_of_error hproduce
      | ok summary =>
          refine (on_bind_of_ok hproduce).trans ?_
          show _ = (verdict s summary, w')
          rw [verdict]
          split <;> rfl

/-- Nothing is done if something cannot be read. -/
theorem on_produce_of_not_readable {s : Settings} (h : ¬ w.Readable s.inputs) :
    ∃ e log, w.Hinders s.inputs e ∧ (produce s).on w = (.error e, ⟨w.disk, log⟩) := by
  rcases reads_reports w s.inputs with ⟨hreadable, -⟩ | ⟨e, hhinders, hreads⟩
  · exact absurd hreadable h
  · obtain ⟨log, hrun⟩ := hreads w.log
    exact ⟨e, log, hhinders, on_bind_of_error hrun⟩

/-- If everything can be read and the output can be written, it is there afterwards. -/
theorem on_produce_of_readable {s : Settings} (h : w.Readable s.inputs)
    (hwrite : ((writeOutput s.output (renderReports (w.reports s.inputs) s.pretty)).on w).1 =
      .ok ()) :
    ∃ w', (produce s).on w = (.ok (Summary.ofReports (w.reports s.inputs)), w') ∧
      w'.text s.output = some (renderReports (w.reports s.inputs) s.pretty) ∧
      w'.disk.home = w.disk.home ∧
      ∀ names, w'.disk.locate? s.output ≠ some names →
        w'.disk.top.itemAt? names = w.disk.top.itemAt? names ∨
          w.disk.top.itemAt? names = none ∧ w'.disk.top.itemAt? names = some .folder := by
  rcases reads_reports w s.inputs with ⟨-, hreads⟩ | ⟨e, hhinders, -⟩
  · obtain ⟨log, hrun⟩ := hreads w.log
    obtain ⟨d, hwritten, hfind, helse⟩ := on_writeOutput_of_ok hwrite
    let summary := Summary.ofReports (w.reports s.inputs)
    let written := Event.written summary.endpoints summary.clients s.output.text
    refine ⟨⟨d, log ++ [written]⟩, ?_, ?_, helse⟩
    · exact (on_bind_of_ok hrun).trans (on_bind_of_ok (hwritten log))
    · rw [World.text, hfind]
  · exact absurd h hhinders.not_readable

/-- **A run is all or nothing.** If an input is not there, or a source file cannot be read, the run
fails with that, and no file or folder is made or changed. Else, if the output can be written, it
holds the reports for all that was read, the working folder stays where it is, and every other place
is as it was, but for new folders where nothing was. What is left behind does not depend on whether
failures matter. If they do, and there are any in a report, the run fails with the number of all
failures and graph errors in all reports; else it does not fail. -/
theorem withSettings_all_or_nothing (w : World) (s : Settings) :
    (¬ w.Readable s.inputs → ∃ e, w.Hinders s.inputs e ∧
      ((withSettings s).on w).1 = .error e ∧ ((withSettings s).on w).2.disk = w.disk) ∧
    (∀ strict, ((withSettings { s with strict := strict }).on w).2 = ((withSettings s).on w).2) ∧
    (w.Readable s.inputs →
      ((writeOutput s.output (renderReports (w.reports s.inputs) s.pretty)).on w).1 = .ok () →
      let reports := w.reports s.inputs
      let total := (reports.map fun r => r.failures.length + r.graphErrors.length).sum
      let w' := ((withSettings s).on w).2
      w'.text s.output = some (renderReports reports s.pretty) ∧
      w'.disk.home = w.disk.home ∧
      (∀ names, w'.disk.locate? s.output ≠ some names →
        w'.disk.top.itemAt? names = w.disk.top.itemAt? names ∨
          w.disk.top.itemAt? names = none ∧ w'.disk.top.itemAt? names = some .folder) ∧
      (Summary.ofReports reports).failures = total ∧
      ((withSettings s).on w).1 =
        if s.strict = true ∧ ∃ r ∈ reports, r.failures ≠ [] ∨ r.graphErrors ≠ [] then
          .error (.unresolved total s.output)
        else .ok (Summary.ofReports reports)) := by
  refine ⟨fun h => ?_, fun strict => ?_, fun h hwrite => ?_⟩
  · obtain ⟨e, log, hhinders, hproduce⟩ := on_produce_of_not_readable h
    rw [on_withSettings, hproduce]
    exact ⟨e, hhinders, rfl, rfl⟩
  · rw [on_withSettings, on_withSettings]
    rfl
  · obtain ⟨w', hproduce, htext, hhome, helse⟩ := on_produce_of_readable h hwrite
    intro reports total
    have htotal : (Summary.ofReports reports).failures = total := Summary.failures_ofReports reports
    rw [on_withSettings, hproduce]
    refine ⟨htext, hhome, helse, htotal, ?_⟩
    show verdict s (Summary.ofReports reports) = _
    rw [verdict, htotal]
    simp only [Bool.and_eq_true, decide_eq_true_iff, ← htotal, gt_iff_lt,
      Summary.failures_ofReports_pos_iff]

/-- A world with a client whose only method has no route, and no folder for the output. -/
def lossyWorld : World :=
  .ofFolder (.folder [("src", .folder
    [("api.rs", .file (some "#[client] trait Api \x7b async fn lost(&self); \x7d")),
      ("notes.md", .file none)])])

/-- Settings of a run in it, with an output outside of the working folder. -/
def lossySettings : Settings where
  inputs := [⟨"src"⟩]
  output := ⟨"/out/specs.json"⟩
  strict := true
  pretty := false

theorem withSettings_all_or_nothing_lossyWorld :
    lossyWorld.Readable lossySettings.inputs ∧
    let w' := ((withSettings lossySettings).on lossyWorld).2
    w'.text ⟨"/out/specs.json"⟩ =
      some (renderReports (lossyWorld.reports lossySettings.inputs) false) ∧
    (∀ names, w'.disk.locate? ⟨"/out/specs.json"⟩ ≠ some names →
      w'.disk.top.itemAt? names = lossyWorld.disk.top.itemAt? names ∨
        lossyWorld.disk.top.itemAt? names = none ∧ w'.disk.top.itemAt? names = some .folder) ∧
    ((withSettings lossySettings).on lossyWorld).1 =
      .error (.unresolved 1 ⟨"/out/specs.json"⟩) := by
  have hsources : lossyWorld.sources lossySettings.inputs = [⟨"src/api.rs"⟩] := by decide +kernel
  have hreadable : lossyWorld.Readable lossySettings.inputs := by
    refine ⟨by decide +kernel, ?_⟩
    rw [hsources]
    intro file hfile
    rw [List.mem_singleton.mp hfile]
    exact ⟨[⟨"Api", true, [], .unset, [], [⟨"lost", true, [], [], [], [], .unset⟩]⟩],
      by decide +kernel⟩
  obtain ⟨htext, -, helse, -, hresult⟩ :=
    (withSettings_all_or_nothing lossyWorld lossySettings).2.2 hreadable (by decide +kernel)
  have hlost : lossySettings.strict = true ∧
      ∃ r ∈ lossyWorld.reports lossySettings.inputs, r.failures ≠ [] ∨ r.graphErrors ≠ [] := by
    decide +kernel
  have htotal : ((lossyWorld.reports lossySettings.inputs).map fun r =>
      r.failures.length + r.graphErrors.length).sum = 1 := by
    decide +kernel
  rw [if_pos hlost, htotal] at hresult
  exact ⟨hreadable, htext, helse, hresult⟩

end Run

end ClientTraits
