import DeltaStudy.Proofs.Chart.Axes
import DeltaStudy.Proofs.Numeral.Order

/-!
# Ranges hold their values

The range of a list of values goes from one of its finite values to another one and holds all of
them. With a margin it still does, and then its ends are apart, so that
a place on it can be divided by its width. A chart has a bottom axis of this kind for its rounds
unless it has no point, and another one for its mining times if one of them is finite.

Nothing is said here about logarithms: a mining time is wherever its logarithm is.
-/

namespace DeltaStudy.Chart

open Numeral

variable {left right value : Float} {values others : List Float} {range : Range}

/-! ## The smaller and the larger of two numbers -/

theorem lesser_le (isNumber : left.isNaN = false) (isNumber' : right.isNaN = false) :
    lesser left right ≤ left ∧ lesser left right ≤ right := by
  rw [lesser]
  split
  case isTrue less => exact ⟨Double.le_of_lt less, Double.le_refl isNumber'⟩
  case isFalse notLess =>
    exact ⟨Double.le_refl isNumber, Double.le_of_not_lt isNumber' isNumber notLess⟩

theorem le_greater (isNumber : left.isNaN = false) (isNumber' : right.isNaN = false) :
    left ≤ greater left right ∧ right ≤ greater left right := by
  rw [greater]
  split
  case isTrue less => exact ⟨Double.le_of_lt less, Double.le_refl isNumber'⟩
  case isFalse notLess =>
    exact ⟨Double.le_refl isNumber, Double.le_of_not_lt isNumber isNumber' notLess⟩

/-! ## The range of values -/

/-- A value that lies in a range. -/
def Range.Holds (range : Range) (value : Float) : Prop :=
  range.start ≤ value ∧ value ≤ range.stop

/-- A range from one of some values to another one that holds all of them. -/
structure Encloses (range : Range) (values : List Float) : Prop where
  start_mem : range.start ∈ values
  stop_mem : range.stop ∈ values
  holds : ∀ value ∈ values, range.Holds value

/-- One more number moves an end of the range or none. -/
theorem Encloses.include (encloses : Encloses range values) (isNumber : value.isNaN = false) :
    Encloses (range.include value) (values ++ [value]) := by
  obtain ⟨start_mem, stop_mem, holds⟩ := encloses
  obtain ⟨⟨rank, ranked⟩, -⟩ := exists_ranked_of_le (holds _ start_mem).1
  obtain ⟨⟨rank', ranked'⟩, -⟩ := exists_ranked_of_le (holds _ stop_mem).2
  obtain ⟨startLe, startLe'⟩ := lesser_le ranked.isNaN_eq isNumber
  obtain ⟨leStop, leStop'⟩ := le_greater ranked'.isNaN_eq isNumber
  refine ⟨?_, ?_, fun other member => ?_⟩
  · show lesser range.start value ∈ _
    rw [lesser]
    split
    · exact List.mem_append_right _ (List.mem_singleton_self value)
    · exact List.mem_append_left _ start_mem
  · show greater range.stop value ∈ _
    rw [greater]
    split
    · exact List.mem_append_right _ (List.mem_singleton_self value)
    · exact List.mem_append_left _ stop_mem
  · rcases List.mem_append.mp member with old | new
    · obtain ⟨above, below⟩ := holds other old
      exact ⟨Double.le_trans startLe above, Double.le_trans below leStop⟩
    · rw [List.mem_singleton.mp new]
      exact ⟨startLe', leStop'⟩

/-- Any number of further numbers move the ends of the range outwards or not at all. -/
theorem Encloses.foldl_include (encloses : Encloses range values)
    (numbers : ∀ value ∈ others, value.isNaN = false) :
    Encloses (others.foldl Range.include range) (values ++ others) := by
  induction others generalizing range values with
  | nil => rwa [List.append_nil]
  | cons value rest inductionHypothesis =>
    obtain ⟨isNumber, numbers⟩ := List.forall_mem_cons.mp numbers
    have rest := inductionHypothesis (encloses.include isNumber) numbers
    rwa [List.append_assoc] at rest

/-- There is no range if and only if no value is finite. -/
theorem rangeOf?_eq_none_iff :
    rangeOf? values = none ↔ ∀ value ∈ values, value.isFinite = false := by
  rw [rangeOf?]
  split
  case h_1 none =>
    refine ⟨fun _ value member => ?_, fun _ => rfl⟩
    exact Bool.eq_false_iff.mpr (List.filter_eq_nil_iff.mp none value member)
  case h_2 first rest some =>
    have kept : first ∈ values.filter Float.isFinite := some ▸ List.mem_cons_self
    obtain ⟨member, finite⟩ := List.mem_filter.mp kept
    constructor
    · intro impossible
      cases impossible
    · intro infinite
      exact absurd finite (Bool.eq_false_iff.mp (infinite first member))

/-- The range of values encloses those that are finite. -/
theorem encloses_of_rangeOf? (ranged : rangeOf? values = some range) :
    Encloses range (values.filter Float.isFinite) := by
  have finite : ∀ value ∈ values.filter Float.isFinite, value.isNaN = false := fun value member =>
    isNaN_eq_of_isFinite (List.mem_filter.mp member).2
  rw [rangeOf?] at ranged
  split at ranged
  case h_1 => cases ranged
  case h_2 first rest same =>
    cases ranged
    rw [same] at finite ⊢
    obtain ⟨isNumber, numbers⟩ := List.forall_mem_cons.mp finite
    have single : Encloses ⟨first, first⟩ [first] :=
      ⟨List.mem_singleton_self _, List.mem_singleton_self _,
        List.forall_mem_singleton.mpr ⟨Double.le_refl isNumber, Double.le_refl isNumber⟩⟩
    exact single.foldl_include numbers

/-! ## Margins -/

/-- The margin of a narrow range is not lost in rounding. -/
theorem exists_large_margin (finite : value.isFinite = true) :
    ∃ margin : Nat, IsSteps (greater (value.abs * 0.1) 0.5) margin
      ∧ (exactSteps value).natAbs < twoTo 50 * margin := by
  obtain ⟨share, isShare, more, less⟩ := exists_isSteps_tenth
  have half := stepsPerUnit_eq_two_mul_halfSteps
  have unit := twoTo_le_stepsPerUnit
  have abs : IsSteps value.abs (exactSteps value).natAbs := (IsSteps.mk finite rfl).abs
  generalize (exactSteps value).natAbs = size at abs
  have tenth := abs.mul_share isShare (by omega)
  refine ⟨_, isSteps_greater tenth isSteps_constants.2.2, ?_⟩
  rcases Nat.lt_or_ge (size * share) (twoTo 52 * stepsPerUnit) with small | normal
  · -- A value that is so close to zero has a half for its margin.
    have scaled := Nat.mul_le_mul_left size more
    have close : 99 * size < 1000 * twoTo 52 := by
      refine Nat.lt_of_mul_lt_mul_right (a := stepsPerUnit) ?_
      rw [Nat.mul_left_comm, Nat.mul_left_comm size] at scaled
      rw [Nat.mul_assoc, Nat.mul_assoc]
      omega
    simp only [twoTo, Nat.pow_eq, Nat.reducePow] at close unit ⊢
    omega
  · have near := (nearest_near normal stepsPerUnit_pos).2
    have scaled := Nat.mul_le_mul_left size more
    have positive : 0 < size := by
      refine Nat.pos_of_ne_zero fun zero => ?_
      rw [zero, Nat.zero_mul] at normal
      exact Nat.not_lt.mpr normal (Nat.mul_pos (twoTo_pos 52) stepsPerUnit_pos)
    generalize nearest (size * share) stepsPerUnit = margin at *
    refine Nat.lt_of_lt_of_le ?_ (Nat.mul_le_mul_left _ (Nat.le_max_left margin halfSteps))
    refine Nat.lt_of_mul_lt_mul_right (a := stepsPerUnit) ?_
    have room := Nat.mul_pos positive stepsPerUnit_pos
    rw [Nat.mul_left_comm, Nat.mul_left_comm size] at scaled
    simp only [twoTo, Nat.pow_eq, Nat.reducePow] at near ⊢
    rw [Nat.mul_assoc]
    omega

/-- A narrow range is widened beyond both of its ends. -/
theorem start_sub_lt (finite : value.isFinite = true) :
    value - greater (value.abs * 0.1) 0.5 < value ∧ 0 ≤ greater (value.abs * 0.1) 0.5 := by
  obtain ⟨margin, isMargin, large⟩ := exists_large_margin finite
  have isSteps : IsSteps value (exactSteps value) := ⟨finite, rfl⟩
  have lower := rounded_sub_lt large
  have small := isSteps.representable.lt_overflow
  constructor
  · rw [(isSteps.ranked_sub isMargin).lt_iff isSteps.ranked, saturated]
    omega
  · exact (isSteps_zero.le_iff isMargin).mpr (Int.natCast_nonneg margin)

/-- The width of a range that is not narrow is positive. -/
theorem start_lt_stop_of_wide (start : range.start.isFinite = true)
    (stop : range.stop.isFinite = true) (ordered : range.start ≤ range.stop)
    (wide : ¬ range.width ≤ epsilon * greater range.stop.abs 1) : range.start < range.stop := by
  have isStart : IsSteps range.start (exactSteps range.start) := ⟨start, rfl⟩
  have isStop : IsSteps range.stop (exactSteps range.stop) := ⟨stop, rfl⟩
  have limit : 0 ≤ epsilon * greater range.stop.abs 1 := by
    obtain ⟨isEpsilon, isOne, -⟩ := isSteps_constants
    have tall := Nat.le_max_right (exactSteps range.stop).natAbs stepsPerUnit
    have unit := stepsPerUnit_pos
    refine (isSteps_greater isStop.abs isOne).mul_nonneg (by omega) ?_
    exact (isSteps_zero.le_iff isEpsilon).mpr (Int.natCast_nonneg epsilonSteps)
  have apart : exactSteps range.start ≠ exactSteps range.stop := by
    intro same
    have width := isStop.ranked_sub isStart
    rw [same, Int.sub_self, isSteps_zero.saturated_rounded] at width
    exact wide (Double.le_trans ((width.le_iff isSteps_zero.ranked).mpr (Int.le_refl 0)) limit)
  have ordered := (isStart.le_iff isStop).mp ordered
  exact (isStart.lt_iff isStop).mpr (by omega)

/-- With a margin the ends of a range are apart, and it holds what it held. The share of its width
that the margin takes may be more than there is room for. -/
theorem padded_sound {share : Float} (start : range.start.isFinite = true)
    (stop : range.stop.isFinite = true) (ordered : range.start ≤ range.stop)
    (nonneg : 0 ≤ range.width * share) :
    (range.padded share).start < (range.padded share).stop
    ∧ ∀ value, range.Holds value → (range.padded share).Holds value := by
  have outwards {margin : Float} (nonneg : 0 ≤ margin) :
      range.start - margin ≤ range.start ∧ range.stop ≤ range.stop + margin :=
    ⟨((IsSteps.mk start rfl).le_add_and_sub_le nonneg).2,
      ((IsSteps.mk stop rfl).le_add_and_sub_le nonneg).1⟩
  rw [Range.padded]
  split
  case isTrue narrow =>
    obtain ⟨below, nonneg⟩ := start_sub_lt start
    obtain ⟨startLe, leStop⟩ := outwards nonneg
    refine ⟨Double.lt_of_lt_of_le below (Double.le_trans ordered leStop), fun value holds => ?_⟩
    exact ⟨Double.le_trans startLe holds.1, Double.le_trans holds.2 leStop⟩
  case isFalse wide =>
    have apart := start_lt_stop_of_wide start stop ordered wide
    obtain ⟨startLe, leStop⟩ := outwards nonneg
    refine ⟨Double.lt_of_le_of_lt startLe (Double.lt_of_lt_of_le apart leStop), ?_⟩
    intro value holds
    exact ⟨Double.le_trans startLe holds.1, Double.le_trans holds.2 leStop⟩

/-- The width of a range is not negative, but it may be infinite. -/
theorem width_nonneg (start : range.start.isFinite = true) (stop : range.stop.isFinite = true)
    (ordered : range.start ≤ range.stop) : 0 ≤ range.width := by
  have isStart : IsSteps range.start (exactSteps range.start) := ⟨start, rfl⟩
  have isStop : IsSteps range.stop (exactSteps range.stop) := ⟨stop, rfl⟩
  have ordered := (isStart.le_iff isStop).mp ordered
  have upward := saturated_mono
    (rounded_mono (by omega : 0 ≤ exactSteps range.stop - exactSteps range.start))
  rw [isSteps_zero.saturated_rounded] at upward
  exact (isSteps_zero.ranked.le_iff (isStop.ranked_sub isStart)).mpr upward

/-- The ends of a range of values are finite, and in their order. -/
theorem Encloses.ends (encloses : Encloses range (values.filter Float.isFinite)) :
    range.start.isFinite = true ∧ range.stop.isFinite = true ∧ range.start ≤ range.stop :=
  ⟨(List.mem_filter.mp encloses.start_mem).2, (List.mem_filter.mp encloses.stop_mem).2,
    (encloses.holds _ encloses.stop_mem).1⟩

/-- The range of values with a margin of one twentieth of its width. -/
theorem rangeOf?_padded_sound (ranged : rangeOf? values = some range) :
    (range.padded 0.05).start < (range.padded 0.05).stop
    ∧ ∀ value ∈ values, value.isFinite = true → (range.padded 0.05).Holds value := by
  have encloses := encloses_of_rangeOf? ranged
  obtain ⟨start, stop, ordered⟩ := encloses.ends
  have share : IsSteps 0.05 (exactSteps 0.05) ∧ 0 < exactSteps 0.05 := by decide +kernel
  obtain ⟨apart, holds⟩ := padded_sound start stop ordered
    (share.1.mul_nonneg share.2 (width_nonneg start stop ordered))
  exact ⟨apart, fun value member finite =>
    holds value (encloses.holds value (List.mem_filter.mpr ⟨member, finite⟩))⟩

/-- The range of rounds without a margin. -/
theorem rangeOf?_rounds_sound {rounds : List UInt64}
    (ranged : rangeOf? (rounds.map UInt64.toFloat) = some range) :
    (range.padded 0).start < (range.padded 0).stop
    ∧ ∀ round ∈ rounds, (range.padded 0).Holds round.toFloat := by
  have encloses := encloses_of_rangeOf? ranged
  obtain ⟨start, stop, ordered⟩ := encloses.ends
  obtain ⟨least, -, least_eq⟩ := List.mem_map.mp (List.mem_filter.mp encloses.start_mem).1
  obtain ⟨greatest, -, greatest_eq⟩ := List.mem_map.mp (List.mem_filter.mp encloses.stop_mem).1
  have isStart : IsSteps range.start (roundSteps least) := least_eq ▸ isSteps_toFloat least
  have isStop : IsSteps range.stop (roundSteps greatest) := greatest_eq ▸ isSteps_toFloat greatest
  have nothing : 0 ≤ range.width * 0 := by
    have steps := Int.ofNat_le.mp ((isStart.le_iff isStop).mp ordered)
    have bounded := roundSteps_le greatest
    have room := eight_words_le
    have width := isStop.sub_natCast isStart steps (by omega)
    have product := IsSteps.ranked_mul width isSteps_zero
    rw [roundedProduct_zero_right, @saturated_of_lt 0 overflowSteps_pos] at product
    exact (isSteps_zero.ranked.le_iff product).mpr (Int.le_refl 0)
  obtain ⟨apart, holds⟩ := padded_sound start stop ordered nothing
  refine ⟨apart, fun round member => holds _ (encloses.holds _ ?_)⟩
  exact List.mem_filter.mpr ⟨List.mem_map_of_mem member, (isSteps_toFloat round).finite⟩

/-! ## Mining times -/

variable {options : Options} {series : Trend.Series} {place : Place}

/-- Whether a mining time is at a finite place on its axis. -/
def HasPlace (options : Options) (point : Trend.Point) : Prop :=
  if options.logScale then 0 < point.average ∧ (Float.log10 point.average).isFinite = true
  else point.average.isFinite = true

/-- The mining times that are drawn: all of them along a linear axis, and the positive ones along
a logarithmic one, in the order of the points. -/
theorem miningLine_eq (options : Options) (series : Trend.Series) :
    miningLine options series =
      if options.miningTime && series.hasMiningTime then
        if options.logScale then
          (series.points.filter fun point => 0 < point.average).map fun point =>
            (roundValue point, Float.log10 point.average)
        else series.points.map fun point => (roundValue point, point.average)
      else [] := by
  rw [miningLine]
  split
  · split
    case isTrue log =>
      rw [← List.filterMap_eq_map, List.filterMap_filter]
      refine List.filterMap_congr fun point _ => ?_
      rw [miningPlace?, if_pos log]
      by_cases positive : 0 < point.average
      · simp only [positive, if_true, Option.map_some, decide_true, Function.comp_apply]
      · simp only [positive, if_false, Option.map_none, decide_false, Bool.false_eq_true]
    case isFalse linear =>
      rw [← List.filterMap_eq_map]
      refine List.filterMap_congr fun point _ => ?_
      rw [miningPlace?, if_neg linear]
      rfl
  · rfl

/-- Some mining time is drawn at a finite place if and only if mining times are drawn, the series
has them, and one of its points has a place. -/
theorem exists_finite_miningLine_iff :
    (∃ place ∈ miningLine options series, place.2.isFinite = true)
      ↔ options.miningTime = true ∧ series.hasMiningTime = true
        ∧ ∃ point ∈ series.points, HasPlace options point := by
  rw [miningLine_eq]
  simp only [HasPlace]
  split
  case isTrue drawn =>
    obtain ⟨on, has⟩ := Bool.and_eq_true_iff.mp drawn
    split
    · simp [on, has, and_assoc]
    · simp [on, has]
  case isFalse notDrawn =>
    simp only [Bool.and_eq_true] at notDrawn
    simp only [List.not_mem_nil, false_and, exists_false, false_iff]
    exact fun both => notDrawn ⟨both.1, both.2.1⟩

/-- There is a range of mining times if and only if one of them has a place. -/
theorem isSome_rangeOf?_miningTimes (content : Content) (options : Options) :
    (rangeOf? (content.series.flatMap fun series =>
        (miningLine options series).map Prod.snd)).isSome = true
      ↔ options.miningTime = true ∧ ∃ series ∈ content.series, series.hasMiningTime = true
        ∧ ∃ point ∈ series.points, HasPlace options point := by
  rw [Option.isSome_iff_ne_none, ne_eq, rangeOf?_eq_none_iff]
  constructor
  · intro notAll
    simp only [List.mem_flatMap, List.mem_map, not_forall, Bool.not_eq_false] at notAll
    obtain ⟨value, ⟨series, member, place, inLine, rfl⟩, finite⟩ := notAll
    obtain ⟨on, has, placed⟩ := exists_finite_miningLine_iff.mp ⟨place, inLine, finite⟩
    exact ⟨on, series, member, has, placed⟩
  · rintro ⟨on, series, member, has, placed⟩ infinite
    obtain ⟨place, inLine, finite⟩ := exists_finite_miningLine_iff.mpr ⟨on, has, placed⟩
    rw [infinite place.2 (List.mem_flatMap.mpr ⟨series, member, List.mem_map_of_mem inLine⟩)]
      at finite
    cases finite

/-! ## Axes -/

/-- Axes on which a chart can be drawn. -/
structure Axes.Sound (axes : Axes) (content : Content) (options : Options) : Prop where
  /-- The ends of the bottom axis are apart. -/
  rounds_apart : axes.rounds.start < axes.rounds.stop
  /-- Every round is on the bottom axis. -/
  rounds_hold : ∀ series ∈ content.series, ∀ point ∈ series.points,
    axes.rounds.Holds (roundValue point)
  /-- There is an axis of mining times if and only if one of them has a finite place. -/
  miningTime_iff : axes.miningTime.isSome = true
    ↔ options.miningTime = true ∧ ∃ series ∈ content.series, series.hasMiningTime = true
      ∧ ∃ point ∈ series.points, HasPlace options point
  /-- The ends of the axis of mining times are apart. -/
  miningTime_apart : ∀ range, axes.miningTime = some range → range.start < range.stop
  /-- Every finite mining time that is drawn is on its axis. -/
  miningTime_holds : ∀ range, axes.miningTime = some range → ∀ series ∈ content.series,
    ∀ place ∈ miningLine options series, place.2.isFinite = true → range.Holds place.2

/-- The values of the rounds that a chart shows. -/
theorem roundValues_eq (content : Content) :
    (content.series.flatMap fun series => series.points.map roundValue)
      = (roundsOf content).map UInt64.toFloat := by
  simp only [roundsOf, List.map_flatMap, List.map_map]
  rfl

theorem roundsOf_eq_nil_iff {content : Content} :
    roundsOf content = [] ↔ ∀ series ∈ content.series, series.points = [] := by
  simp [roundsOf]

/-- There is a range of rounds unless there is no point. -/
theorem rangeOf?_rounds_eq_none_iff {rounds : List UInt64} :
    rangeOf? (rounds.map UInt64.toFloat) = none ↔ rounds = [] := by
  rw [rangeOf?_eq_none_iff]
  constructor
  · intro infinite
    refine List.eq_nil_iff_forall_not_mem.mpr fun round member => ?_
    have finite := (isSteps_toFloat round).finite
    rw [infinite _ (List.mem_map_of_mem member)] at finite
    cases finite
  · rintro rfl
    exact List.forall_mem_nil _

/-- A chart has axes unless it has no point, and then drawing it is refused. Every round and every
finite mining time that is drawn is on its axis, and the ends of an axis are apart. Mining times
have an axis if and only if one of them has a finite place. They are drawn in the order of the
points, all of them along a linear axis and the positive ones along a logarithmic one. -/
theorem axesOf_sound (content : Content) (options : Options) :
    (match axesOf content options with
      | .error failure =>
        failure.kind = .render ∧ ∀ series ∈ content.series, series.points = []
      | .ok axes =>
        (∃ series ∈ content.series, series.points ≠ []) ∧ axes.Sound content options)
    ∧ ∀ series : Trend.Series, miningLine options series =
        if options.miningTime && series.hasMiningTime then
          if options.logScale then
            (series.points.filter fun point => 0 < point.average).map fun point =>
              (roundValue point, Float.log10 point.average)
          else series.points.map fun point => (roundValue point, point.average)
        else [] := by
  refine ⟨?_, miningLine_eq options⟩
  rw [axesOf, roundValues_eq]
  cases ranged : rangeOf? ((roundsOf content).map UInt64.toFloat) with
  | none => exact ⟨rfl, roundsOf_eq_nil_iff.mp (rangeOf?_rounds_eq_none_iff.mp ranged)⟩
  | some range =>
    have shown : ∃ series ∈ content.series, series.points ≠ [] := by
      by_contra hidden
      simp only [not_exists, not_and, ne_eq, not_not] at hidden
      rw [rangeOf?_rounds_eq_none_iff.mpr (roundsOf_eq_nil_iff.mpr hidden)] at ranged
      cases ranged
    refine ⟨shown, ?_⟩
    obtain ⟨apart, holds⟩ := rangeOf?_rounds_sound ranged
    have ofMiningTimes (range : Range) (some : (rangeOf? (content.series.flatMap fun series =>
        (miningLine options series).map Prod.snd)).map (Range.padded · 0.05) = some range) :
        range.start < range.stop ∧ ∀ series ∈ content.series,
          ∀ place ∈ miningLine options series, place.2.isFinite = true → range.Holds place.2 := by
      obtain ⟨unpadded, ranged, rfl⟩ := Option.map_eq_some_iff.mp some
      obtain ⟨apart, holds⟩ := rangeOf?_padded_sound ranged
      refine ⟨apart, fun series member place inLine => holds place.2 ?_⟩
      exact List.mem_flatMap.mpr ⟨series, member, List.mem_map_of_mem inLine⟩
    exact
      { rounds_apart := apart
        rounds_hold := fun series member point inPoints => holds point.round
          (List.mem_flatMap.mpr ⟨series, member, List.mem_map_of_mem inPoints⟩)
        miningTime_iff := by
          rw [Option.isSome_map]
          exact isSome_rangeOf?_miningTimes content options
        miningTime_apart := fun range some => (ofMiningTimes range some).1
        miningTime_holds := fun range some => (ofMiningTimes range some).2 }

end DeltaStudy.Chart
