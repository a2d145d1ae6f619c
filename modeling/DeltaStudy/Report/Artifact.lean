import DeltaStudy.Numeral.Fixed
import DeltaStudy.Study.Comparison
import DeltaStudy.Text.Lines

/-!
# Reports on artifacts

What is printed about an analysed artifact, a sample of its series, and the
artifacts that a comparison left out.
-/

namespace DeltaStudy.Report

/-- The number of invalid rows that a report shows. -/
def shownErrors : Nat := 5

/-- The number of rounds that a sample shows on the command line. -/
def sampleSize : Nat := 10

/-- The line for an invalid row. -/
def rowErrorLine (error : Artifact.RowError) : String :=
  "  line " ++ Numeral.decimalText error.line ++ ": " ++ error.message

/-- The lines about mining times. -/
def miningTimeLines (measurements : Artifact.Measurements) (statistics : Trend.Statistics) :
    List String :=
  if measurements.hasMiningTime then
    [ "Average mining time: " ++ Numeral.fixed 3 statistics.meanSeconds ++ " sec"
    , match statistics.deviationSeconds with
      | some deviation => "Mining time std deviation: " ++ Numeral.fixed 3 deviation ++ " sec"
      | none => "Mining time std deviation: n/a" ]
  else
    ["Average mining time: n/a (no mining_time column)"]

/-- The line about repeated rounds, if there were any. -/
def duplicateLines (measurements : Artifact.Measurements) : List String :=
  if measurements.duplicatesDropped = 0 then []
  else ["Duplicate rounds dropped: " ++ Numeral.decimalText measurements.duplicatesDropped]

/-- The lines about invalid rows: their number, and the first of them. -/
def rowErrorLines (measurements : Artifact.Measurements) : List String :=
  if measurements.rowErrors.isEmpty then []
  else
    ("Rows skipped: " ++ Numeral.decimalText measurements.rowErrors.length)
      :: (measurements.rowErrors.take shownErrors).map rowErrorLine

/-- The lines about an artifact whose series has these figures. -/
def statisticsLines (measurements : Artifact.Measurements)
    (statistics : Option Trend.Statistics) (window : Nat) : List String :=
  [ "=== Data Statistics ==="
  , "CSV file: " ++ measurements.artifact.text ]
    ++ match statistics with
      | none => ["Total blocks: 0"]
      | some figures =>
        [ "Total blocks: " ++ Numeral.decimalText figures.count
        , "Average difficulty: " ++ Numeral.fixed 2 figures.meanDifficulty ]
          ++ miningTimeLines measurements figures
          ++ ["Moving average window size: " ++ Numeral.decimalText window]
          ++ duplicateLines measurements
          ++ rowErrorLines measurements

/-- What is printed about an artifact. -/
def statistics (measurements : Artifact.Measurements) (figures : Option Trend.Statistics)
    (window : Nat) : String :=
  Text.written (statisticsLines measurements figures window)

/-- The four columns of a sample. -/
def sampleRow (round seconds average difficulty : String) : String :=
  Text.joined " "
    [ Text.alignRight 10 round, Text.alignRight 16 seconds, Text.alignRight 16 average
    , Text.alignRight 14 difficulty ]

/-- The line of a sample for one round. -/
def sampleLine (point : Trend.Point) : String :=
  sampleRow (Numeral.decimalText point.round.toNat) (Numeral.fixed 3 point.seconds)
    (Numeral.fixed 3 point.average) (Numeral.fixed 6 point.difficulty)

/-- The first rounds of a series. -/
def sample (series : Trend.Series) (count : Nat) : String :=
  Text.written
    ("=== Data Sample ==="
      :: sampleRow "round" "mining_time_sec" "mining_time_ma" "difficulty"
      :: (series.points.take count).map sampleLine)

/-- The line for an artifact that was left out. -/
def skippedLine (skipped : Study.Skipped) : String :=
  let delta := match skipped.source.delta with
    | some value => " (Δ/T=" ++ Numeral.shortest value ++ ")"
    | none => ""
  "✗ skipped " ++ skipped.source.artifact.text ++ delta ++ ": " ++ skipped.failure.message

/-- What is printed about the artifacts that were left out. -/
def skipped (all : List Study.Skipped) : String :=
  Text.written (all.map skippedLine)

end DeltaStudy.Report
