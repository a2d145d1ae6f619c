import DeltaStudy.Chart.Svg
import DeltaStudy.Study.Analysis

/-!
# Charts on paper

Writing a chart to a storage. Nothing is written before the whole picture is
there, so a chart that fails leaves the storage as it was. How a chart is drawn
makes no difference for that: `Desk.renderBy` and `Desk.plotBy` take any way of
drawing, and what is called a document is what it gives them.
-/

namespace DeltaStudy.Study

/-- A way of drawing, which makes the document of a chart or fails. -/
abbrev Drawing :=
  Chart.Content → Chart.Options → Except Failure String

/-- The document of a chart, unless there is nothing to chart. -/
def chartDocument : Drawing :=
  fun content options => (Chart.draw content options).map Chart.Svg.document

/-- The document of a chart that may be written where it should be. -/
def checkedDocument (drawing : Drawing) (content : Chart.Content) (options : Chart.Options) :
    Except Failure String := do
  Chart.checkOutput options.output
  drawing content options

/-- What is told about a chart that could be drawn: for each series whether some
of its points have no place. -/
def drawingEvents (content : Chart.Content) (options : Chart.Options) : List Event :=
  (content.series.filter (Chart.omitsPoints options)).map fun _ => .pointsOmitted

namespace Desk

variable {m : Type → Type} [Monad m]

/-- Draw a chart in a given way and write it. -/
def renderBy (drawing : Drawing) (desk : Desk m) (content : Chart.Content)
    (options : Chart.Options) : m (Except Failure Path) := do
  match checkedDocument drawing content options with
  | .error failure => return .error failure
  | .ok document =>
    (drawingEvents content options).forM desk.note
    match ← desk.storage.write options.output (Text.encodeUtf8 document) with
    | .error failure => return .error failure
    | .ok () =>
      desk.note .chartWritten
      return .ok options.output

/-- Draw a chart and write it. -/
def render (desk : Desk m) : Chart.Content → Chart.Options → m (Except Failure Path) :=
  desk.renderBy chartDocument

/-- Analyse one artifact and write its chart, drawn in a given way. -/
def plotBy (drawing : Drawing) (desk : Desk m) (source : Source) (options : Chart.Options) :
    m (Except Failure (Analysis × Path)) := do
  match ← desk.analyze source options.window with
  | .error failure => return .error failure
  | .ok analysis =>
    let written ← desk.renderBy drawing (.ofSeries [analysis.series]) options
    return written.map fun path => (analysis, path)

/-- Analyse one artifact and write its chart. -/
def plot (desk : Desk m) : Source → Chart.Options → m (Except Failure (Analysis × Path)) :=
  desk.plotBy chartDocument

end Desk

end DeltaStudy.Study
