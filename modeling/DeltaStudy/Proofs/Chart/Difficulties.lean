import DeltaStudy.Proofs.Chart.Dashes
import DeltaStudy.Proofs.Chart.Ranges
import DeltaStudy.Proofs.Chart.References

/-!
# The axis of the difficulties

The axis of the difficulties begins at zero and ends a little above the greatest finite
difficulty and the greatest reference. It holds them all unless a reference is infinite, as that of
a Δ/T value far below zero is: then it ends at one, whatever else there is.

Of the exponential function only this much is taken for granted: no value of it is negative.
-/

namespace DeltaStudy.Chart

open Numeral

variable {first value highest : Float} {content : Content} {options : Options}

/-! ## The greatest of some values -/

theorem le_greater_left (isNumber : first.isNaN = false) (other : Float) :
    (greater first other).isNaN = false ∧ first ≤ greater first other := by
  rw [greater]
  split
  case isTrue less =>
    obtain ⟨-, rank, ranked⟩ := exists_ranked_of_lt less
    exact ⟨ranked.isNaN_eq, Double.le_of_lt less⟩
  case isFalse => exact ⟨isNumber, Double.le_refl isNumber⟩

/-- The greatest of some values from a number on: a number that is one of them or the first one,
and not below any of them. What is not a number is passed over. -/
theorem foldl_greater (isNumber : first.isNaN = false) (values : List Float) :
    (values.foldl greater first).isNaN = false
    ∧ first ≤ values.foldl greater first
    ∧ (∀ value ∈ values, value.isNaN = false → value ≤ values.foldl greater first)
    ∧ (values.foldl greater first = first ∨ values.foldl greater first ∈ values) := by
  induction values generalizing first with
  | nil => exact ⟨isNumber, Double.le_refl isNumber, List.forall_mem_nil _, .inl rfl⟩
  | cons head rest inductionHypothesis =>
    obtain ⟨isNumber', firstLe⟩ := le_greater_left isNumber head
    obtain ⟨number, above, bounds, member⟩ := inductionHypothesis isNumber'
    refine ⟨number, Double.le_trans firstLe above, ?_, ?_⟩
    · refine List.forall_mem_cons.mpr ⟨fun ofHead => ?_, bounds⟩
      exact Double.le_trans (le_greater isNumber ofHead).2 above
    · rw [List.foldl_cons]
      rcases member with same | later
      · rw [same, greater]
        split
        · exact .inr List.mem_cons_self
        · exact .inl rfl
      · exact .inr (List.mem_cons_of_mem head later)

/-! ## The range of difficulties -/

theorem zero_lt_one : (0 : Float) < 1 :=
  (isSteps_zero.lt_iff isSteps_constants.2.1).mpr (Int.natCast_pos.mpr stepsPerUnit_pos)

/-- The factor that the greatest difficulty is multiplied with is one at least. -/
theorem isSteps_factor :
    IsSteps 1.05 (exactSteps 1.05) ∧ (stepsPerUnit : Int) ≤ exactSteps 1.05 := by
  decide +kernel

/-- A positive number is not larger than the end of the range that is made with it. -/
theorem le_mul_of_pos (finite : highest.isFinite = true) (positive : 0 < highest) :
    highest ≤ highest * 1.05 := by
  obtain ⟨isShare, large⟩ := isSteps_factor
  have isSteps : IsSteps highest (exactSteps highest) := ⟨finite, rfl⟩
  have above := (isSteps_zero.lt_iff isSteps).mp positive
  obtain ⟨size, same⟩ := Int.eq_ofNat_of_zero_le (Int.le_of_lt above)
  obtain ⟨share, sameShare⟩ :=
    Int.eq_ofNat_of_zero_le (Int.le_trans (Int.natCast_nonneg stepsPerUnit) large)
  rw [same] at isSteps
  rw [sameShare] at isShare large
  have grown : size ≤ nearest (size * share) stepsPerUnit :=
    le_nearest_of_le stepsPerUnit_pos isSteps.representable.gap_dvd
      (Nat.mul_le_mul_left size (Int.ofNat_le.mp large))
  have small := isSteps.representable.lt_overflow
  rw [isSteps.ranked.le_iff (isSteps.ranked_mul isShare), roundedProduct_natCast, saturated]
  omega

/-- The range of difficulties begins at zero and ends above it. -/
theorem difficultyRange_apart (highest : Float) :
    (difficultyRange highest).start = 0
    ∧ (difficultyRange highest).start < (difficultyRange highest).stop := by
  rw [difficultyRange]
  split
  case isTrue usable =>
    obtain ⟨finite, positive⟩ := Bool.and_eq_true_iff.mp usable
    have positive := of_decide_eq_true positive
    exact ⟨rfl, Double.lt_of_lt_of_le positive (le_mul_of_pos finite positive)⟩
  case isFalse => exact ⟨rfl, zero_lt_one⟩

/-- The range of difficulties holds what is between zero and the greatest of them, unless
that is infinite. -/
theorem difficultyRange_holds (bounded : highest.isFinite = true ∨ highest ≤ 0)
    (nonneg : 0 ≤ value) (below : value ≤ highest) : (difficultyRange highest).Holds value := by
  obtain ⟨-, rank, ranked⟩ := exists_ranked_of_le below
  rw [difficultyRange]
  split
  case isTrue usable =>
    obtain ⟨finite, positive⟩ := Bool.and_eq_true_iff.mp usable
    exact ⟨nonneg, Double.le_trans below (le_mul_of_pos finite (of_decide_eq_true positive))⟩
  case isFalse notUsable =>
    have notAbove : highest ≤ 0 := by
      rcases bounded with finite | notAbove
      · refine Double.le_of_not_lt (isNaN_eq_of_isFinite isSteps_zero.finite) ranked.isNaN_eq ?_
        intro positive
        exact notUsable (Bool.and_eq_true_iff.mpr ⟨finite, decide_eq_true positive⟩)
      · exact notAbove
    exact ⟨nonneg, Double.le_trans below (Double.le_trans notAbove (Double.le_of_lt zero_lt_one))⟩

/-! ## What the axis is there for -/

/-- The values that the axis of the difficulties is there for, as far as they are finite: the
difficulties that are not negative, and the references if they are drawn. -/
def Content.Reaches (content : Content) (options : Options) (value : Float) : Prop :=
  value.isFinite = true
  ∧ ((0 ≤ value ∧ ∃ series ∈ content.series, ∃ point ∈ series.points, point.difficulty = value)
    ∨ (options.referenceLines = true ∧ ∃ reference ∈ content.references, reference.value = value))

/-- Some reference that is drawn is infinite. -/
def Content.Overflows (content : Content) (options : Options) : Prop :=
  options.referenceLines = true ∧ ∃ reference ∈ content.references, reference.value.isInf = true

/-- Negative infinity is where the greatest of no values is. -/
theorem bottom_facts :
    (ofSteps true overflowSteps).isNaN = false ∧ ofSteps true overflowSteps ≤ 0 := by
  decide +kernel

/-- The values that the greatest difficulty is the greatest of. -/
def Content.Weighs (content : Content) (options : Options) (value : Float) : Prop :=
  (value.isFinite = true
    ∧ ∃ series ∈ content.series, ∃ point ∈ series.points, point.difficulty = value)
  ∨ (options.referenceLines = true ∧ ∃ reference ∈ content.references, reference.value = value)

theorem mem_weighed :
    value ∈ ((content.series.flatMap fun series => series.points.map Trend.Point.difficulty).filter
        Float.isFinite)
      ++ (if options.referenceLines then content.references.map Reference.value else [])
    ↔ content.Weighs options value := by
  simp only [Content.Weighs, List.mem_append, List.mem_filter, List.mem_flatMap, List.mem_map]
  refine or_congr and_comm ?_
  split <;> simp [*]

/-- The greatest difficulty is a number, one of the values weighed if there are any, and not
below any of them. -/
theorem highestDifficulty_greatest (content : Content) (options : Options) :
    (highestDifficulty content options).isNaN = false
    ∧ (∀ value, content.Weighs options value → value.isNaN = false →
      value ≤ highestDifficulty content options)
    ∧ (highestDifficulty content options = ofSteps true overflowSteps
      ∨ content.Weighs options (highestDifficulty content options)) := by
  obtain ⟨isNumber, -, bounds, member⟩ := foldl_greater bottom_facts.1
    (((content.series.flatMap fun series => series.points.map Trend.Point.difficulty).filter
      Float.isFinite)
      ++ if options.referenceLines then content.references.map Reference.value else [])
  exact ⟨isNumber, fun value weighs => bounds value (mem_weighed.mpr weighs),
    member.imp_right mem_weighed.mp⟩

/-- What the axis is there for is not above the greatest difficulty. -/
theorem le_highestDifficulty (reaches : content.Reaches options value) :
    value ≤ highestDifficulty content options := by
  obtain ⟨finite, what⟩ := reaches
  obtain ⟨-, bounds, -⟩ := highestDifficulty_greatest content options
  refine bounds value ?_ (isNaN_eq_of_isFinite finite)
  exact what.imp_left fun ⟨_, carried⟩ => ⟨finite, carried⟩

/-- Without an infinite reference the greatest difficulty is finite or below everything. -/
theorem highestDifficulty_bounded (bounded : ¬ content.Overflows options) :
    (highestDifficulty content options).isFinite = true
    ∨ highestDifficulty content options ≤ 0 := by
  obtain ⟨isNumber, -, bottom | ⟨finite, -⟩ | ⟨on, reference, member, same⟩⟩ :=
    highestDifficulty_greatest content options
  · rw [bottom]
    exact .inr bottom_facts.2
  · exact .inl finite
  · refine .inl (isFinite_of_isInf_eq isNumber (Bool.eq_false_iff.mpr fun infinite => bounded ?_))
    exact ⟨on, reference, member, same.symm ▸ infinite⟩

/-- With an infinite reference the greatest difficulty is infinite too. -/
theorem isFinite_highestDifficulty_eq (overflows : content.Overflows options)
    (nonneg : ∀ reference ∈ content.references, ¬ reference.value < 0) :
    (highestDifficulty content options).isFinite = false := by
  obtain ⟨on, reference, member, infinite⟩ := overflows
  obtain ⟨-, bounds, -⟩ := highestDifficulty_greatest content options
  obtain ⟨sign, ranked⟩ := exists_ranked_of_isInf infinite
  exact isFinite_eq_of_isInf_le infinite (nonneg reference member)
    (bounds reference.value (.inr ⟨on, reference, member, rfl⟩) ranked.isNaN_eq)

theorem difficulty_eq_of_axesOf {axes : Axes} (computed : axesOf content options = .ok axes) :
    axes.difficulty = difficultyRange (highestDifficulty content options) := by
  rw [axesOf] at computed
  split at computed
  · cases computed
  · cases computed
    rfl

/-- The axis of the difficulties of a chart with a point begins at zero and ends above it. It holds
everything that it is there for unless a reference that is drawn is infinite; then it goes
from zero to one. -/
theorem axesOf_difficulties (exponential : Float → Float)
    (nonnegative : ∀ value, ¬ exponential value < 0) (series : List Trend.Series)
    (shown : ∃ one ∈ series, one.points ≠ []) (options : Options) :
    ∃ axes, axesOf (.ofSeriesBy exponential series) options = .ok axes
      ∧ axes.difficulty.start = 0 ∧ axes.difficulty.start < axes.difficulty.stop
      ∧ (¬ (Content.ofSeriesBy exponential series).Overflows options →
        ∀ value, (Content.ofSeriesBy exponential series).Reaches options value →
          axes.difficulty.Holds value)
      ∧ ((Content.ofSeriesBy exponential series).Overflows options →
        axes.difficulty = ⟨0, 1⟩) := by
  have nonneg : ∀ reference ∈ (Content.ofSeriesBy exponential series).references,
      ¬ reference.value < 0 := by
    have references : (Content.ofSeriesBy exponential series).references = _ :=
      referencesBy_eq _ series
    intro reference member
    rw [references] at member
    obtain ⟨delta, -, rfl⟩ := List.mem_map.mp member
    exact nonnegative (-delta)
  obtain ⟨axes, least, greatest, computed, -, -⟩ :=
    @exists_axesOf (.ofSeriesBy exponential series) options shown
  obtain ⟨start, apart⟩ := difficultyRange_apart
    (highestDifficulty (.ofSeriesBy exponential series) options)
  refine ⟨axes, computed, ?_⟩
  rw [difficulty_eq_of_axesOf computed]
  refine ⟨start, apart, fun bounded value reaches => ?_, fun overflows => ?_⟩
  · have aboveZero : 0 ≤ value := by
      obtain ⟨finite, ⟨nonneg, -⟩ | ⟨-, reference, member, rfl⟩⟩ := reaches
      · exact nonneg
      · exact Double.le_of_not_lt (isNaN_eq_of_isFinite finite)
          (isNaN_eq_of_isFinite isSteps_zero.finite) (nonneg reference member)
    exact difficultyRange_holds (highestDifficulty_bounded bounded) aboveZero
      (le_highestDifficulty reaches)
  · rw [difficultyRange, isFinite_highestDifficulty_eq overflows nonneg]
    rfl

/-- A function that is exact where the exponential function is one, and where it is too large for
a double. -/
def steep (exponent : Float) : Float :=
  if 709.79 < exponent then ofSteps false overflowSteps else 1

theorem steep_nonnegative (exponent : Float) : ¬ steep exponent < 0 := by
  have values : ¬ ofSteps false overflowSteps < 0 ∧ ¬ (1 : Float) < 0 := by decide +kernel
  rw [steep]
  split
  · exact values.1
  · exact values.2

/-- A series with one difficulty. -/
def seriesAt (delta difficulty : Float) : Trend.Series :=
  ⟨"series", some delta, true, [⟨1, 1, 1, difficulty⟩]⟩

/-- The axis holds a difficulty of two and the reference of zero, which is one. -/
theorem axesOf_difficulties_two :
    (∀ exponent, ¬ steep exponent < 0)
    ∧ (∃ one ∈ [seriesAt 0 2], one.points ≠ [])
    ∧ ∃ axes, axesOf (.ofSeriesBy steep [seriesAt 0 2]) everything = .ok axes
      ∧ axes.difficulty.Holds 2 ∧ axes.difficulty.Holds 1 := by
  have shown : ∃ one ∈ [seriesAt 0 2], one.points ≠ [] :=
    ⟨_, List.mem_cons_self, List.cons_ne_nil _ _⟩
  obtain ⟨axes, computed, -, -, holds, -⟩ :=
    axesOf_difficulties steep steep_nonnegative [seriesAt 0 2] shown everything
  have facts : (Content.ofSeriesBy steep [seriesAt 0 2]).references = [⟨0, 1⟩]
      ∧ Float.isInf 1 = false ∧ Float.isFinite 1 = true ∧ Float.isFinite 2 = true
      ∧ (0 : Float) ≤ 2 := by
    decide +kernel
  obtain ⟨references, bounded, oneFinite, twoFinite, nonneg⟩ := facts
  have calm : ¬ (Content.ofSeriesBy steep [seriesAt 0 2]).Overflows everything := by
    rintro ⟨-, reference, member, infinite⟩
    rw [references] at member
    obtain rfl := List.mem_singleton.mp member
    rw [bounded] at infinite
    cases infinite
  refine ⟨steep_nonnegative, shown, axes, computed, holds calm 2 ?_, holds calm 1 ?_⟩
  · exact ⟨twoFinite, .inl ⟨nonneg, _, List.mem_cons_self, _, List.mem_cons_self, rfl⟩⟩
  · exact ⟨oneFinite, .inr ⟨rfl, ⟨0, 1⟩, references.symm ▸ List.mem_cons_self, rfl⟩⟩

/-- A Δ/T value of -1000 in one series makes the axis end at one, though the difficulty of another
series is two. -/
theorem axesOf_difficulties_hidden :
    (∀ exponent, ¬ steep exponent < 0)
    ∧ ∃ axes, axesOf (.ofSeriesBy steep [seriesAt (-1000) 0.5, seriesAt 0 2]) everything = .ok axes
      ∧ axes.difficulty = ⟨0, 1⟩
      ∧ (Content.ofSeriesBy steep [seriesAt (-1000) 0.5, seriesAt 0 2]).Reaches everything 2
      ∧ ¬ axes.difficulty.Holds 2 := by
  obtain ⟨axes, -, -, computed, -⟩ :=
    @exists_axesOf (.ofSeriesBy steep [seriesAt (-1000) 0.5, seriesAt 0 2]) everything
      ⟨_, List.mem_cons_self, List.cons_ne_nil _ _⟩
  have facts : difficultyRange (highestDifficulty
        (.ofSeriesBy steep [seriesAt (-1000) 0.5, seriesAt 0 2]) everything) = ⟨0, 1⟩
      ∧ Float.isFinite 2 = true ∧ (0 : Float) ≤ 2 ∧ ¬ (2 : Float) ≤ 1 := by
    decide +kernel
  obtain ⟨range, finite, nonneg, above⟩ := facts
  have same := (difficulty_eq_of_axesOf computed).trans range
  refine ⟨steep_nonnegative, axes, computed, same, ⟨finite, .inl ⟨nonneg, ?_⟩⟩, ?_⟩
  · exact ⟨_, List.mem_cons_of_mem _ List.mem_cons_self, _, List.mem_cons_self, rfl⟩
  · rw [same]
    exact fun holds => above holds.2

end DeltaStudy.Chart
