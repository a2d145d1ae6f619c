import DeltaStudy.Trend.Series

/-!
# Statistics

The figures that are printed for one series. The deviation is that of a sample,
so a single point has none.
-/

namespace DeltaStudy.Trend

/-- The figures of a series with at least one point. -/
structure Statistics where
  /-- The number of points. -/
  count : Nat
  meanDifficulty : Float
  /-- The mean mining time in seconds. -/
  meanSeconds : Float
  /-- The standard deviation of the mining times, from two points on. -/
  deviationSeconds : Option Float
deriving DecidableEq

/-- The standard deviation of a sample with a given mean. -/
def sampleDeviation (values : List Float) (average : Float) : Float :=
  let squares := values.map fun value => (value - average) * (value - average)
  Float.sqrt (sum squares / (countValue values.length - 1))

/-- The figures of a series; a series without points has none. -/
def Series.statistics? (series : Series) : Option Statistics :=
  if series.points.isEmpty then
    none
  else
    let seconds := series.points.map Point.seconds
    let meanSeconds := mean seconds
    some
      { count := series.points.length
        meanDifficulty := mean (series.points.map Point.difficulty)
        meanSeconds
        deviationSeconds :=
          if 2 ≤ series.points.length then some (sampleDeviation seconds meanSeconds) else none }

end DeltaStudy.Trend
