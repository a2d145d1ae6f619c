import DeltaStudy.Proofs.Storage.Archives
import DeltaStudy.Proofs.Study.Analyses
import DeltaStudy.Proofs.Study.Partitions
import DeltaStudy.Study.Rendering

/-!
# Charts in an archive

A chart goes through several stages before it is written, and each of them may fail. Only the
last one touches the archive. So charting either leaves the archive as it was, or it stores
the document under the output path and changes nothing else. Nothing is assumed about the
archive: the output may be there already, and it may be the artifact itself.

The way of drawing is left open. It decides by the content of a chart and its options whether
there is a document, and which one.
-/

namespace DeltaStudy.Study

open Artifact (Measurements)
open Storage (Archive)

/-! ## Storing under one path -/

/-- An archive where content was stored under a path, and nothing else was done. -/
structure Replaces (path : Path) (content : List UInt8) (before after : Archive) : Prop where
  holds : after.get? path = some content
  others : ∀ other, other.same path = false → after.get? other = before.get? other
  /-- The other files are the same ones, in the same order. -/
  rest : after.files.filter (fun file => !path.same file.1)
    = before.files.filter fun file => !path.same file.1

theorem filter_insertAmong (path : Path) (content : List UInt8)
    (files : List (Path × List UInt8)) :
    (Archive.insertAmong path content files).filter (fun file => !path.same file.1)
      = files.filter fun file => !path.same file.1 := by
  have own : (!path.same path) = false := by simp [Path.same_self]
  induction files with
  | nil => rw [Archive.insertAmong, List.filter_cons_of_neg (by simp [own])]
  | cons file rest inductionHypothesis =>
    obtain ⟨other, stored⟩ := file
    rw [Archive.insertAmong]
    split
    case isTrue same =>
      rw [List.filter_cons_of_neg (by simp [same]), List.filter_cons_of_neg (by simp [same])]
    case isFalse different =>
      split
      case isTrue => rw [List.filter_cons_of_neg (by simp [own])]
      case isFalse =>
        rw [List.filter_cons, List.filter_cons, inductionHypothesis]

theorem replaces_insert (archive : Archive) (path : Path) (content : List UInt8) :
    Replaces path content archive (archive.insert path content) where
  holds := by rw [Archive.get?_insert, if_pos (Path.same_self path)]
  others := by
    intro other different
    rw [Archive.get?_insert, different]
    rfl
  rest := filter_insertAmong path content archive.files

/-! ## All or nothing -/

/-- The end of a study at an archive: a failure that leaves the archive as it was, or a value,
with what is true of it and of the archive afterwards. -/
inductive AllOrNothing {α : Type} (before : Archive) (fails : Failure → Prop)
    (succeeds : α → Archive → Prop) : Except Failure α × Archive → Prop
  | nothing {failure : Failure} (failed : fails failure) :
    AllOrNothing before fails succeeds (.error failure, before)
  | all {value : α} {after : Archive} (succeeded : succeeds value after) :
    AllOrNothing before fails succeeds (.ok value, after)

/-- What is done with the value alone keeps all or nothing. -/
theorem AllOrNothing.map {α β : Type} {before : Archive} {fails fails' : Failure → Prop}
    {succeeds : α → Archive → Prop} {succeeds' : β → Archive → Prop}
    {step : StateM Archive (Except Failure α)}
    (ends : AllOrNothing before fails succeeds (step.run before)) (f : α → β)
    (refused : ∀ {failure}, fails failure → fails' failure)
    (done : ∀ {value after}, succeeds value after → succeeds' (f value) after) :
    AllOrNothing before fails' succeeds'
      ((step >>= fun result => pure (result.map f)).run before) := by
  generalize run : step.run before = final at ends
  cases ends with
  | nothing failed =>
    rw [Desk.run_bind_of_run run]
    exact .nothing (refused failed)
  | all succeeded =>
    rw [Desk.run_bind_of_run run]
    exact .all (done succeeded)

variable (drawing : Drawing) (options : Chart.Options) (before : Archive)

/-- Why a chart is not written. -/
inductive NotRendered (content : Chart.Content) : Failure → Prop
  | notSvg (other : options.output.hasExtension "svg" = false) :
    NotRendered content (.notSvg options.output)
  | notDrawn {failure : Failure} (svg : options.output.hasExtension "svg" = true)
    (refused : drawing content options = .error failure) : NotRendered content failure

/-- A chart that is written: its document stands under the output path, and nothing else is
changed. -/
inductive Rendered (content : Chart.Content) (path : Path) (after : Archive) : Prop
  | intro {document : String} (returned : path = options.output)
    (svg : options.output.hasExtension "svg" = true)
    (drawn : drawing content options = .ok document)
    (replaces : Replaces options.output (Text.encodeUtf8 document) before after)

/-- Why an artifact is not charted: the first stage that fails. -/
inductive NotPlotted (source : Source) : Failure → Prop
  | missing (nothing : before.get? source.artifact = none) :
    NotPlotted source (.artifactNotFound source.artifact)
  | unusable {bytes : List UInt8} {failure : Failure}
    (found : before.get? source.artifact = some bytes)
    (refused : Measurements.ofBytes source.artifact bytes = .error failure) :
    NotPlotted source failure
  | noWindow {bytes : List UInt8} {measurements : Measurements}
    (found : before.get? source.artifact = some bytes)
    (measured : Measurements.ofBytes source.artifact bytes = .ok measurements)
    (zero : options.window = 0) : NotPlotted source .zeroWindow
  | notRendered {bytes : List UInt8} {analysis : Analysis} {failure : Failure}
    (found : before.get? source.artifact = some bytes)
    (analysed : Analysis.ofBytes source options.window bytes = .ok analysis)
    (refused : NotRendered drawing options (.ofSeries [analysis.series]) failure) :
    NotPlotted source failure

/-- An artifact that is charted, with its analysis. -/
inductive Plotted (source : Source) : Analysis × Path → Archive → Prop
  | intro {bytes : List UInt8} {analysis : Analysis} {path : Path} {after : Archive}
    (found : before.get? source.artifact = some bytes)
    (analysed : Analysis.ofBytes source options.window bytes = .ok analysis)
    (rendered : Rendered drawing options before (.ofSeries [analysis.series]) path after) :
    Plotted source (analysis, path) after

namespace Desk

/-- A chart is written once it may be written where it should be and is drawn. -/
theorem run_renderBy (content : Chart.Content) :
    (ofArchive.renderBy drawing content options).run before
      = match checkedDocument drawing content options with
        | .error failure => (.error failure, before)
        | .ok document =>
          (.ok options.output, before.insert options.output (Text.encodeUtf8 document)) := by
  rw [renderBy]
  cases checkedDocument drawing content options with
  | error failure => rfl
  | ok document =>
    simp only [forM_note_silent, pure_bind]
    rfl

theorem renderBy_allOrNothing (content : Chart.Content) :
    AllOrNothing before (NotRendered drawing options content)
      (Rendered drawing options before content)
      ((ofArchive.renderBy drawing content options).run before) := by
  rw [run_renderBy, checkedDocument, Chart.checkOutput]
  cases svg : options.output.hasExtension "svg" with
  | false => exact .nothing (.notSvg svg)
  | true =>
    cases drawn : drawing content options with
    | error failure => exact .nothing (.notDrawn svg drawn)
    | ok document => exact .all ⟨rfl, svg, drawn, replaces_insert before options.output _⟩

/-- An analysis of bytes fails for want of measurements or of a window. -/
theorem notPlotted_of_ofBytes {source : Source} {bytes : List UInt8} {failure : Failure}
    (found : before.get? source.artifact = some bytes)
    (refused : Analysis.ofBytes source options.window bytes = .error failure) :
    NotPlotted drawing options before source failure := by
  rw [Analysis.ofBytes_eq] at refused
  cases measured : Measurements.ofBytes source.artifact bytes with
  | error reason =>
    rw [measured] at refused
    cases refused
    exact .unusable found measured
  | ok measurements =>
    simp only [measured] at refused
    by_cases zero : options.window = 0
    · rw [zero] at refused
      cases refused
      exact .noWindow found measured zero
    · obtain ⟨series, made⟩ := Trend.Series.exists_ofMeasurements measurements
        (Nat.pos_of_ne_zero zero) source.label source.delta
      rw [made] at refused
      cases refused

theorem plotBy_allOrNothing (source : Source) :
    AllOrNothing before (NotPlotted drawing options before source)
      (Plotted drawing options before source)
      ((ofArchive.plotBy drawing source options).run before) := by
  have analyzed : (ofArchive.analyze source options.window).run before
      = (before.read source.artifact >>= Analysis.ofBytes source options.window, before) :=
    reads_analyze source options.window before
  rw [Archive.read] at analyzed
  cases found : before.get? source.artifact with
  | none =>
    rw [found] at analyzed
    rw [plotBy, run_bind_of_run analyzed]
    exact .nothing (.missing found)
  | some bytes =>
    have only : (Except.ok bytes >>= Analysis.ofBytes source options.window)
        = Analysis.ofBytes source options.window bytes := rfl
    simp only [found, only] at analyzed
    rw [plotBy, run_bind_of_run analyzed]
    cases analysed : Analysis.ofBytes source options.window bytes with
    | error failure => exact .nothing (notPlotted_of_ofBytes drawing options before found analysed)
    | ok analysis =>
      exact (renderBy_allOrNothing drawing options before (.ofSeries [analysis.series])).map
        (fun path => (analysis, path)) (fun refused => .notRendered found analysed refused)
        (fun rendered => ⟨found, analysed, rendered⟩)

end Desk

/-- Charting writes the document under the output path and changes nothing else, or it fails at
one of its stages and changes nothing at all. What runs, `Desk.render` and `Desk.plot`, is the
case of `chartDocument`. -/
theorem charting_allOrNothing :
    (∀ content, AllOrNothing before (NotRendered drawing options content)
      (Rendered drawing options before content)
      ((Desk.ofArchive.renderBy drawing content options).run before))
    ∧ ∀ source, AllOrNothing before (NotPlotted drawing options before source)
      (Plotted drawing options before source)
      ((Desk.ofArchive.plotBy drawing source options).run before) :=
  ⟨Desk.renderBy_allOrNothing drawing options before,
    Desk.plotBy_allOrNothing drawing options before⟩

end DeltaStudy.Study
