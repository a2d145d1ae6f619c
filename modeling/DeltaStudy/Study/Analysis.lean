import DeltaStudy.Storage.Requests
import DeltaStudy.Study.Source
import DeltaStudy.Trend.Statistics

/-!
# Analyses

The analysis of an artifact: its measurements, their series and the figures of
the series. `Analysis.ofBytes` says what the analysis of given bytes is; at a
`Desk`, where a study is carried out, the bytes come from a storage and whatever
is worth telling is told on the way.
-/

namespace DeltaStudy.Study

/-- An analysed artifact. -/
structure Analysis where
  measurements : Artifact.Measurements
  /-- The series of the measurements. -/
  series : Trend.Series
  /-- The figures of the series. -/
  statistics : Option Trend.Statistics
deriving DecidableEq

namespace Analysis

/-- The analysis of a scanned artifact. -/
def ofScan (source : Source) (window : Nat) (scan : Artifact.Scan) : Except Failure Analysis := do
  let measurements ← Artifact.Measurements.ofScan source.artifact scan
  let series ← Trend.Series.ofMeasurements measurements window source.label source.delta
  return ⟨measurements, series, series.statistics?⟩

/-- The analysis of an artifact with these bytes. -/
def ofBytes (source : Source) (window : Nat) (bytes : List UInt8) : Except Failure Analysis := do
  ofScan source window (← Artifact.scan source.artifact bytes)

end Analysis

/-- Where a study is carried out. -/
structure Desk (m : Type → Type) where
  /-- Where artifacts are found and charts are written. -/
  storage : Storage m
  /-- Take notice of an event. -/
  note : Event → m Unit

namespace Desk

variable {m : Type → Type} [Monad m]

/-- A desk that takes no notice of events. -/
def silent (storage : Storage m) : Desk m :=
  ⟨storage, fun _ => pure ()⟩

/-- The bytes of an artifact. A directory is no artifact. -/
def bytesOf (desk : Desk m) (artifact : Path) : m (Except Failure (List UInt8)) := do
  if ← desk.storage.isFile artifact then
    desk.storage.read artifact
  else
    return .error (.artifactNotFound artifact)

/-- Analyse bytes, telling what is worth telling. -/
def analyzeBytes (desk : Desk m) (source : Source) (window : Nat) (bytes : List UInt8) :
    m (Except Failure Analysis) := do
  match Artifact.scan source.artifact bytes with
  | .error failure => return .error failure
  | .ok scan =>
    scan.events.forM desk.note
    let analysis := Analysis.ofScan source window scan
    if analysis.toBool then
      desk.note .artifactAnalyzed
    return analysis

/-- Analyse an artifact. -/
def analyze (desk : Desk m) (source : Source) (window : Nat) : m (Except Failure Analysis) := do
  match ← desk.bytesOf source.artifact with
  | .error failure => return .error failure
  | .ok bytes => desk.analyzeBytes source window bytes

end Desk

end DeltaStudy.Study
