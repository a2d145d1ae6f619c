import DeltaStudy.Artifact.Measurements
import DeltaStudy.Trend.Average

/-!
# Series

A series is what a chart shows of one artifact: mining times in seconds, their
moving average and the difficulties, round by round.
-/

namespace DeltaStudy.Trend

/-- What a series says about one round. -/
structure Point where
  /-- The number of the round. -/
  round : UInt64
  /-- The mining time in seconds. -/
  seconds : Float
  /-- The moving average of the mining times. -/
  average : Float
  difficulty : Float
deriving DecidableEq

/-- The points of one artifact, with what is known about it. -/
structure Series where
  /-- The name in the legend. -/
  label : String
  /-- The Δ/T value that the artifact was made with, if it is known. -/
  delta : Option Float
  /-- Whether the artifact has mining times. -/
  hasMiningTime : Bool
  /-- The points in the order of their rounds. -/
  points : List Point
deriving DecidableEq

/-- Milliseconds as seconds. -/
def secondsOf (milliseconds : Float) : Float :=
  milliseconds / 1000

/-- The points of measurements that are in the order of their rounds. -/
def pointsOf (measurements : List Artifact.Measurement) (window : Nat) :
    Except Failure (List Point) := do
  let seconds := measurements.map fun measurement => secondsOf measurement.miningTime
  let averages ← movingAverage seconds window
  return (measurements.zip (seconds.zip averages)).map fun (measurement, seconds, average) =>
    { round := measurement.round, seconds, average, difficulty := measurement.difficulty }

/-- The series of an artifact. -/
def Series.ofMeasurements (measurements : Artifact.Measurements) (window : Nat) (label : String)
    (delta : Option Float) : Except Failure Series := do
  let points ← pointsOf measurements.records window
  return { label, delta, hasMiningTime := measurements.hasMiningTime, points }

end DeltaStudy.Trend
