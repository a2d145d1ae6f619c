import DeltaStudy.Chart.Content
import DeltaStudy.Study.Analysis

/-!
# Comparisons

Several artifacts are compared by the series of those that can be analysed. An
artifact that cannot be analysed is left out with its failure and changes
nothing for the others; only if none is left does the comparison fail.
-/

namespace DeltaStudy.Study

/-- An artifact that was left out. -/
structure Skipped where
  /-- The artifact. -/
  source : Source
  /-- Why it was left out. -/
  failure : Failure
deriving DecidableEq

/-- What is compared and what was left out. -/
structure Comparison where
  /-- The content of the chart. -/
  content : Chart.Content
  /-- What was left out, in the order of the request. -/
  skipped : List Skipped
deriving DecidableEq

/-- An artifact with the result of its analysis. -/
abbrev Judged := Source × Except Failure Analysis

namespace Comparison

/-- The series of the artifacts that could be analysed. -/
def charted (judged : List Judged) : List Trend.Series :=
  judged.filterMap fun (_, result) =>
    match result with
    | .ok analysis => some analysis.series
    | .error _ => none

/-- The artifacts that could not be analysed. -/
def leftOut (judged : List Judged) : List Skipped :=
  judged.filterMap fun (source, result) =>
    match result with
    | .ok _ => none
    | .error failure => some ⟨source, failure⟩

/-- The comparison of artifacts whose analyses came out like this. -/
def ofJudged (judged : List Judged) : Except Failure Comparison :=
  if (charted judged).isEmpty then
    .error (.nothingToCompare judged.length (leftOut judged).length)
  else
    .ok ⟨.ofSeries (charted judged), leftOut judged⟩

end Comparison

namespace Desk

variable {m : Type → Type} [Monad m]

/-- Analyse one artifact of a comparison. -/
def judge (desk : Desk m) (window : Nat) (source : Source) : m Judged := do
  let result ← desk.analyze source window
  if !result.toBool then
    desk.note .artifactSkipped
  return (source, result)

/-- Compare artifacts. -/
def compare (desk : Desk m) (sources : List Source) (window : Nat) :
    m (Except Failure Comparison) := do
  if window = 0 then
    return .error .zeroWindow
  else
    let judged ← sources.mapM (desk.judge window)
    return Comparison.ofJudged judged

/-- The tables in a directory as sources. -/
def scanDirectory (desk : Desk m) (directory : Path) : m (Except Failure (List Source)) := do
  let found ← desk.storage.list directory "csv"
  return found.map fun paths => paths.map Source.ofFile

end Desk

end DeltaStudy.Study
