import Mathlib.Data.List.Forall2
import DeltaStudy.Proofs.Failure
import DeltaStudy.Trend.Statistics

/-!
# Smoothed series

A series has one point for each measurement, in the same order, and each average is the mean
of the seconds in the window that ends at its point. The figures of a series count its
points, and a deviation needs two of them.
-/

namespace DeltaStudy.Trend

open Artifact (Measurement Measurements)

/-! ## Moving averages -/

/-- A window is the part of the values that ends with its position. -/
theorem windowAt_eq (values : List Float) (window position : Nat) :
    windowAt values window position = values.extract (position + 1 - window) (position + 1) := by
  rw [windowAt, List.drop_take, List.extract_eq_take_drop]

/-- Values are smoothed unless the window is empty. -/
theorem movingAverage_eq_ok_iff {values averages : List Float} {window : Nat} :
    movingAverage values window = .ok averages ↔ 0 < window
      ∧ averages = (List.range values.length).map fun position =>
        mean (values.extract (position + 1 - window) (position + 1)) := by
  rw [movingAverage, Nat.pos_iff_ne_zero]
  by_cases empty : window = 0
  · simp [empty]
  · simp only [if_neg empty, Except.ok.injEq, windowAt_eq]
    exact ⟨fun same => ⟨empty, same.symm⟩, fun same => same.2.symm⟩

/-! ## Points -/

/-- A point shows a measurement: its round, its mining time in seconds and its difficulty. -/
structure Point.Shows (measurement : Measurement) (point : Point) : Prop where
  round : point.round = measurement.round
  seconds : point.seconds = measurement.miningTime / 1000
  difficulty : point.difficulty = measurement.difficulty

/-- The average of each point is the mean of the seconds in the window that ends there. -/
def Averaged (window : Nat) (points : List Point) : Prop :=
  ∀ position point, points[position]? = some point →
    point.average
      = mean ((points.map Point.seconds).extract (position + 1 - window) (position + 1))

/-- The seconds of measurements. -/
def secondsIn (measurements : List Measurement) : List Float :=
  measurements.map fun measurement => secondsOf measurement.miningTime

/-- The point of a measurement, with the mean of the window that ends at its position. -/
def pointAt (measurements : List Measurement) (window position : Nat) (measurement : Measurement) :
    Point where
  round := measurement.round
  seconds := secondsOf measurement.miningTime
  average := mean ((secondsIn measurements).extract (position + 1 - window) (position + 1))
  difficulty := measurement.difficulty

/-- Measurements have points unless the window is empty. -/
theorem pointsOf_eq_ok_iff {measurements : List Measurement} {window : Nat} {points : List Point} :
    pointsOf measurements window = .ok points ↔ 0 < window
      ∧ points = measurements.mapIdx (pointAt measurements window) := by
  rw [pointsOf, bind_eq_ok_iff]
  simp only [movingAverage_eq_ok_iff, pure, Except.pure, Except.ok.injEq, and_assoc,
    exists_and_left, exists_eq_left]
  refine and_congr_right fun _ => (Eq.congr_left ?_).trans eq_comm
  -- The points are put together from three lists side by side, none of them longer.
  apply List.ext_getElem
  · simp
  · intro position inside _
    simp [secondsIn, pointAt]

/-- There is one point for each measurement, in the same order. -/
theorem forall₂_shows (measurements : List Measurement) (window : Nat) :
    List.Forall₂ Point.Shows measurements (measurements.mapIdx (pointAt measurements window)) := by
  rw [List.forall₂_iff_get]
  refine ⟨(List.length_mapIdx).symm, fun position inside _ => ?_⟩
  simp only [List.get_eq_getElem, List.getElem_mapIdx]
  exact ⟨rfl, rfl, rfl⟩

theorem averaged_mapIdx (measurements : List Measurement) (window : Nat) :
    Averaged window (measurements.mapIdx (pointAt measurements window)) := by
  have seconds : (measurements.mapIdx (pointAt measurements window)).map Point.seconds
      = secondsIn measurements := by
    apply List.ext_getElem
    · simp [secondsIn]
    · intro position _ _
      simp [secondsIn, pointAt]
  intro position point found
  rw [seconds]
  obtain ⟨inside, rfl⟩ := List.getElem?_eq_some_iff.mp found
  rw [List.getElem_mapIdx]
  rfl

/-! ## Series -/

/-- Measurements have a series unless the window is empty. -/
theorem Series.ofMeasurements_eq_ok_iff {measurements : Measurements} {window : Nat}
    {label : String} {delta : Option Float} {series : Series} :
    ofMeasurements measurements window label delta = .ok series ↔ 0 < window
      ∧ series =
        { label, delta
          hasMiningTime := measurements.hasMiningTime
          points := measurements.records.mapIdx (pointAt measurements.records window) } := by
  rw [ofMeasurements, bind_eq_ok_iff]
  simp only [pointsOf_eq_ok_iff, pure, Except.pure, Except.ok.injEq]
  constructor
  · rintro ⟨_, ⟨positive, rfl⟩, rfl⟩
    exact ⟨positive, rfl⟩
  · rintro ⟨positive, rfl⟩
    exact ⟨_, ⟨positive, rfl⟩, rfl⟩

/-- The figures of a series with points count them, and know a deviation from two on. -/
theorem Series.exists_statistics {series : Series} (nonempty : series.points ≠ []) :
    ∃ statistics, series.statistics? = some statistics
      ∧ statistics.count = series.points.length
      ∧ (statistics.deviationSeconds.isSome = true ↔ 2 ≤ statistics.count) := by
  have filled : series.points.isEmpty = false := by simpa using nonempty
  refine ⟨_, by rw [statistics?, filled]; rfl, rfl, ?_⟩
  dsimp only
  split
  case isTrue several => simp [several]
  case isFalse single => simp [single]

end DeltaStudy.Trend
