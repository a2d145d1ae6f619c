import DeltaStudy.Chart.Axes
import DeltaStudy.Proofs.Numeral.Arithmetic

/-!
# The bottom axis

The bottom axis of a chart begins at the smallest round and ends at the largest one, unless
the two are so close that it is widened. Told in least steps, it is one of three: the
half on either side of zero, an axis from one round to a larger one, or an axis that was
widened by a tenth of its rounds. An axis that was widened is wide against the distance of
the doubles at its end; an axis between rounds need not be.
-/

namespace DeltaStudy.Chart

open Numeral

variable {left right : Float} {first second low high : Nat} {axis : Range}

/-! ## The smaller and the larger of two doubles -/

theorem isSteps_lesser (isSteps : IsSteps left first) (isSteps' : IsSteps right second) :
    IsSteps (lesser left right) (min first second : Nat) := by
  rw [lesser]
  split
  case isTrue less =>
    have ordered := Int.ofNat_lt.mp ((isSteps'.lt_iff isSteps).mp less)
    rwa [Nat.min_eq_right (Nat.le_of_lt ordered)]
  case isFalse notLess =>
    have ordered := fun below => notLess ((isSteps'.lt_iff isSteps).mpr (Int.ofNat_lt.mpr below))
    rwa [Nat.min_eq_left (Nat.le_of_not_lt ordered)]

theorem isSteps_greater (isSteps : IsSteps left first) (isSteps' : IsSteps right second) :
    IsSteps (greater left right) (max first second : Nat) := by
  rw [greater]
  split
  case isTrue less =>
    have ordered := Int.ofNat_lt.mp ((isSteps.lt_iff isSteps').mp less)
    rwa [Nat.max_eq_right (Nat.le_of_lt ordered)]
  case isFalse notLess =>
    have ordered := fun below => notLess ((isSteps.lt_iff isSteps').mpr (Int.ofNat_lt.mpr below))
    rwa [Nat.max_eq_left (Nat.le_of_not_lt ordered)]

/-! ## Axes in steps -/

/-- An axis from one number of steps to a larger one, which is that of one at least and far
from what is too large. -/
structure Spans (axis : Range) (low high : Nat) : Prop where
  start : IsSteps axis.start low
  stop : IsSteps axis.stop high
  ordered : low < high
  tall : stepsPerUnit ≤ high
  bounded : 4 * high ≤ overflowSteps

/-- An axis whose width is at least 42 times the distance of the doubles below its end. A dash
is then longer than half of that distance, and not lost in rounding. -/
def Resolved (axis : Range) : Prop :=
  42 * gap ((exactSteps axis.stop).toNat - 1) ≤ (exactSteps axis.width).toNat

theorem Spans.width (spans : Spans axis low high) :
    IsSteps axis.width (nearest (high - low) 1) := by
  have bounded := spans.bounded
  exact spans.stop.sub_natCast spans.start (Nat.le_of_lt spans.ordered) (by omega)

theorem Spans.resolved_iff (spans : Spans axis low high) :
    Resolved axis ↔ 42 * gap (high - 1) ≤ nearest (high - low) 1 := by
  rw [Resolved, spans.stop.exact, spans.width.exact, Int.toNat_natCast, Int.toNat_natCast]

/-! ## The least and the greatest round -/

/-- The steps of the double that a round becomes. -/
def roundSteps (round : UInt64) : Nat :=
  nearest (round.toNat * stepsPerUnit) 1

/-- The rounds at the ends of a range that holds given rounds. -/
structure Bounds (rounds : List UInt64) (least greatest : UInt64) : Prop where
  least_mem : least ∈ rounds
  greatest_mem : greatest ∈ rounds
  least_le : ∀ round ∈ rounds, roundSteps least ≤ roundSteps round
  le_greatest : ∀ round ∈ rounds, roundSteps round ≤ roundSteps greatest

theorem lesser_toFloat (least round : UInt64) :
    lesser least.toFloat round.toFloat
      = (if roundSteps round < roundSteps least then round else least).toFloat := by
  have compared : round.toFloat < least.toFloat ↔ roundSteps round < roundSteps least :=
    ((isSteps_toFloat round).lt_iff (isSteps_toFloat least)).trans Int.ofNat_lt
  rw [lesser]
  simp only [compared]
  split
  · rfl
  · rfl

theorem greater_toFloat (greatest round : UInt64) :
    greater greatest.toFloat round.toFloat
      = (if roundSteps greatest < roundSteps round then round else greatest).toFloat := by
  have compared : greatest.toFloat < round.toFloat ↔ roundSteps greatest < roundSteps round :=
    ((isSteps_toFloat greatest).lt_iff (isSteps_toFloat round)).trans Int.ofNat_lt
  rw [greater]
  simp only [compared]
  split
  · rfl
  · rfl

variable {rounds : List UInt64} {least greatest : UInt64}

/-- One more round moves an end of the range or none. -/
theorem Bounds.include (bounds : Bounds rounds least greatest) (round : UInt64) :
    ∃ least' greatest', Bounds (rounds ++ [round]) least' greatest'
      ∧ Range.include ⟨least.toFloat, greatest.toFloat⟩ round.toFloat
        = ⟨least'.toFloat, greatest'.toFloat⟩ := by
  obtain ⟨least_mem, greatest_mem, least_le, le_greatest⟩ := bounds
  refine ⟨if roundSteps round < roundSteps least then round else least,
    if roundSteps greatest < roundSteps round then round else greatest, ⟨?_, ?_, ?_, ?_⟩, ?_⟩
  · split
    · exact List.mem_append_right _ List.mem_cons_self
    · exact List.mem_append_left _ least_mem
  · split
    · exact List.mem_append_right _ List.mem_cons_self
    · exact List.mem_append_left _ greatest_mem
  · intro other member
    rcases List.mem_append.mp member with old | new
    · have := least_le other old
      split
      · omega
      · exact this
    · rw [List.mem_singleton.mp new]
      split
      · exact Nat.le_refl _
      · omega
  · intro other member
    rcases List.mem_append.mp member with old | new
    · have := le_greatest other old
      split
      · omega
      · exact this
    · rw [List.mem_singleton.mp new]
      split
      · exact Nat.le_refl _
      · omega
  · rw [Range.include, lesser_toFloat, greater_toFloat]

/-- Any number of further rounds moves the ends of the range outwards or not at all. -/
theorem Bounds.foldl_include (bounds : Bounds rounds least greatest) (others : List UInt64) :
    ∃ least' greatest', Bounds (rounds ++ others) least' greatest'
      ∧ (others.map UInt64.toFloat).foldl Range.include ⟨least.toFloat, greatest.toFloat⟩
        = ⟨least'.toFloat, greatest'.toFloat⟩ := by
  induction others generalizing rounds least greatest with
  | nil => exact ⟨least, greatest, by rwa [List.append_nil], rfl⟩
  | cons round rest inductionHypothesis =>
    obtain ⟨least', greatest', bounds', included⟩ := bounds.include round
    obtain ⟨last, last', bounds'', folded⟩ := inductionHypothesis bounds'
    rw [List.append_assoc, List.singleton_append] at bounds''
    exact ⟨last, last', bounds'', by rw [List.map_cons, List.foldl_cons, included, folded]⟩

/-- The range of rounds goes from the least one to the greatest one. -/
theorem exists_rangeOf? (nonempty : rounds ≠ []) :
    ∃ least greatest, Bounds rounds least greatest
      ∧ rangeOf? (rounds.map UInt64.toFloat) = some ⟨least.toFloat, greatest.toFloat⟩ := by
  cases rounds with
  | nil => exact absurd rfl nonempty
  | cons first rest =>
    have finite : ((first :: rest).map UInt64.toFloat).filter Float.isFinite
        = (first :: rest).map UInt64.toFloat := by
      refine List.filter_eq_self.mpr fun value member => ?_
      obtain ⟨round, -, rfl⟩ := List.mem_map.mp member
      exact (isSteps_toFloat round).finite
    have single : Bounds [first] first first := by
      refine ⟨List.mem_singleton_self _, List.mem_singleton_self _, ?_, ?_⟩
      · exact List.forall_mem_singleton.mpr (Nat.le_refl _)
      · exact List.forall_mem_singleton.mpr (Nat.le_refl _)
    obtain ⟨least, greatest, bounds, folded⟩ := single.foldl_include rest
    refine ⟨least, greatest, bounds, ?_⟩
    rw [rangeOf?, finite, List.map_cons]
    exact congrArg some folded

/-! ## Rounds in steps -/

/-- A round other than zero is one at least. -/
theorem unit_le_roundSteps {round : UInt64} (nonzero : round ≠ 0) :
    stepsPerUnit ≤ roundSteps round := by
  have positive : 1 ≤ round.toNat :=
    Nat.pos_of_ne_zero fun zero => nonzero (UInt64.toNat_inj.mp zero)
  have divides : gap stepsPerUnit ∣ stepsPerUnit := by
    have divides := gap_dvd_units (by decide : 1 ≤ twoTo 53)
    rwa [Nat.one_mul] at divides
  refine le_nearest_of_le Nat.one_pos divides ?_
  rw [Nat.mul_one]
  exact Nat.le_mul_of_pos_left _ positive

/-- A round is not larger than the number of words. -/
theorem roundSteps_le (round : UInt64) : roundSteps round ≤ twoTo 64 * stepsPerUnit := by
  have divides : gap (twoTo 64 * stepsPerUnit) ∣ twoTo 64 * stepsPerUnit := by
    obtain ⟨places, same⟩ : ∃ places, places = 1074 := ⟨_, rfl⟩
    rw [← twoTo_eq_stepsPerUnit same, ← twoTo_add]
    exact gap_dvd_twoTo _
  refine nearest_le_of_le Nat.one_pos divides ?_
  rw [Nat.mul_one]
  exact Nat.mul_le_mul_right _ (Nat.le_of_lt round.toNat_lt)

theorem roundSteps_zero : roundSteps 0 = 0 := by
  rw [roundSteps, UInt64.toNat_zero, Nat.zero_mul]
  exact nearest_zero Nat.one_pos

/-- A round that 53 bits can count becomes the double of its number. -/
theorem roundSteps_of_le {round : UInt64} (few : round.toNat ≤ twoTo 53) :
    roundSteps round = round.toNat * stepsPerUnit :=
  nearest_one (gap_dvd_units few)

/-! ## Widening -/

/-- The steps of `epsilon`. -/
def epsilonSteps : Nat :=
  twoTo 1022

/-- The steps of a half. -/
def halfSteps : Nat :=
  twoTo 1073

/-- The doubles that the width of an axis is compared with, and a half. -/
theorem isSteps_constants :
    IsSteps epsilon epsilonSteps ∧ IsSteps 1 stepsPerUnit ∧ IsSteps 0.5 halfSteps := by
  decide +kernel

theorem stepsPerUnit_eq_mul_epsilonSteps : stepsPerUnit = twoTo 52 * epsilonSteps := by
  delta epsilonSteps
  exact (twoTo_eq_stepsPerUnit (by decide)).symm.trans (twoTo_add 52 1022)

theorem stepsPerUnit_eq_two_mul_halfSteps : stepsPerUnit = 2 * halfSteps := by
  delta halfSteps
  exact (twoTo_eq_stepsPerUnit (by decide)).symm.trans (twoTo_succ 1073)

theorem epsilonSteps_pos : 0 < epsilonSteps := by
  delta epsilonSteps
  exact twoTo_pos 1022

theorem twoTo_le_epsilonSteps : twoTo 110 ≤ epsilonSteps := by
  delta epsilonSteps
  exact twoTo_le_twoTo (by decide)

theorem epsilonSteps_le_stepsPerUnit : epsilonSteps ≤ stepsPerUnit := by
  rw [stepsPerUnit_eq_mul_epsilonSteps]
  exact Nat.le_mul_of_pos_left _ (twoTo_pos 52)

theorem twoTo_le_stepsPerUnit : twoTo 110 ≤ stepsPerUnit :=
  Nat.le_trans twoTo_le_epsilonSteps epsilonSteps_le_stepsPerUnit

/-- The steps up to which an axis with a given end is too narrow. -/
def narrowness (high : Nat) : Nat :=
  nearest (epsilonSteps * max high stepsPerUnit) stepsPerUnit

theorem narrow_iff (start : IsSteps axis.start low) (stop : IsSteps axis.stop high)
    (ordered : low ≤ high) (bounded : high ≤ twoTo 64 * stepsPerUnit) :
    axis.width ≤ epsilon * greater axis.stop.abs 1
      ↔ nearest (high - low) 1 ≤ narrowness high := by
  have room : 2 * (twoTo 64 * stepsPerUnit) ≤ overflowSteps := by
    have words := eight_words_le
    omega
  have width := stop.sub_natCast start ordered (by omega)
  have abs := stop.abs
  rw [Int.natAbs_natCast] at abs
  have small : nearest (epsilonSteps * max high stepsPerUnit) stepsPerUnit < overflowSteps := by
    refine nearest_lt_overflowSteps stepsPerUnit_pos ?_
    have scaled : epsilonSteps * max high stepsPerUnit
        ≤ stepsPerUnit * (twoTo 64 * stepsPerUnit) := by
      refine Nat.mul_le_mul epsilonSteps_le_stepsPerUnit (Nat.max_le.mpr ⟨bounded, ?_⟩)
      exact Nat.le_mul_of_pos_left _ (twoTo_pos 64)
    have scaledRoom := Nat.mul_le_mul_right stepsPerUnit room
    rw [Nat.mul_comm stepsPerUnit] at scaled
    rw [Nat.mul_assoc] at scaledRoom
    omega
  obtain ⟨isEpsilon, isOne, -⟩ := isSteps_constants
  have limit := isEpsilon.mul_natCast (isSteps_greater abs isOne) small
  rw [Range.width, width.le_iff limit, Int.ofNat_le]
  rfl

/-- The ends of a narrow axis are closer than one part in `2^50`. -/
theorem close_of_narrow (tall : stepsPerUnit ≤ high)
    (narrow : nearest (high - low) 1 ≤ narrowness high) : twoTo 50 * (high - low) ≤ high := by
  have unit := twoTo_le_stepsPerUnit
  rcases Nat.lt_or_ge (high - low) (twoTo 52) with small | normal
  · simp only [twoTo, Nat.pow_eq, Nat.reducePow] at *
    omega
  · have width := (nearest_near (by omega : twoTo 52 * 1 ≤ high - low) Nat.one_pos).2
    have reached : twoTo 52 * stepsPerUnit ≤ epsilonSteps * high :=
      Nat.mul_le_mul (Nat.le_trans (twoTo_le_twoTo (by decide)) twoTo_le_epsilonSteps) tall
    have limit := (nearest_near reached stepsPerUnit_pos).1
    -- The steps of `epsilon` cancel.
    have cancelled : twoTo 53 * (twoTo 52 * narrowness high) ≤ (twoTo 53 + 1) * high := by
      refine Nat.le_of_mul_le_mul_right ?_ epsilonSteps_pos
      rw [narrowness, Nat.max_eq_left tall]
      rw [stepsPerUnit_eq_mul_epsilonSteps] at limit ⊢
      calc twoTo 53 * (twoTo 52 * nearest (epsilonSteps * high) (twoTo 52 * epsilonSteps))
            * epsilonSteps
          = twoTo 53 * (nearest (epsilonSteps * high) (twoTo 52 * epsilonSteps)
            * (twoTo 52 * epsilonSteps)) := by ring
        _ ≤ (twoTo 53 + 1) * (epsilonSteps * high) := limit
        _ = (twoTo 53 + 1) * high * epsilonSteps := by ring
    simp only [twoTo, Nat.pow_eq, Nat.reducePow, Nat.mul_one] at *
    omega

/-- An axis that begins at zero and is tall is not narrow. -/
theorem eq_zero_of_narrow (tall : high = 0 ∨ stepsPerUnit ≤ high)
    (narrow : nearest (high - 0) 1 ≤ narrowness high) : high = 0 := by
  refine tall.resolve_right fun tall => ?_
  have close := close_of_narrow tall narrow
  have unit := stepsPerUnit_pos
  simp only [twoTo, Nat.pow_eq, Nat.reducePow] at close
  omega

/-- An axis that is not narrow is not widened. -/
theorem spans_padded_of_not_narrow (start : IsSteps axis.start low)
    (stop : IsSteps axis.stop high) (ordered : low ≤ high)
    (tall : high = 0 ∨ stepsPerUnit ≤ high) (bounded : high ≤ twoTo 64 * stepsPerUnit)
    (wide : narrowness high < nearest (high - low) 1) : Spans (axis.padded 0) low high := by
  have room := eight_words_le
  have width := stop.sub_natCast start ordered (by omega)
  have nothing : IsSteps (axis.width * 0) (0 : Nat) := by
    have product := width.mul_share isSteps_zero (Nat.zero_le _)
    rwa [Nat.mul_zero, nearest_zero stepsPerUnit_pos] at product
  have less : low < high := by
    refine Nat.lt_of_le_of_ne ordered fun same => ?_
    rw [same, Nat.sub_self, nearest_zero Nat.one_pos] at wide
    exact Nat.not_lt_zero _ wide
  have unwidened : axis.padded 0
      = ⟨axis.start - axis.width * 0, axis.stop + axis.width * 0⟩ := by
    rw [Range.padded, if_neg]
    rw [narrow_iff start stop ordered bounded]
    omega
  have first := start.sub_natCast nothing (Nat.zero_le _) (by omega)
  rw [Nat.sub_zero, start.nearest_eq] at first
  have last := stop.add_natCast nothing (by omega)
  rw [Nat.add_zero, stop.nearest_eq] at last
  rw [unwidened]
  exact ⟨first, last, less, tall.resolve_left (by omega), by omega⟩

/-- The steps of a tenth, which is not one exactly. -/
theorem exists_isSteps_tenth : ∃ share : Nat, IsSteps 0.1 share
    ∧ 99 * stepsPerUnit ≤ 1000 * share ∧ 1000 * share ≤ 101 * stepsPerUnit :=
  ⟨(exactSteps 0.1).toNat, by decide +kernel⟩

/-- A narrow axis from one or more is widened by some twelfth of its beginning at least and by
half of it at most. -/
theorem exists_margin (start : IsSteps axis.start low) (tall : stepsPerUnit ≤ low) :
    ∃ margin : Nat, IsSteps (greater (axis.start.abs * 0.1) 0.5) margin
      ∧ low ≤ 12 * margin ∧ 2 * margin ≤ low := by
  obtain ⟨share, isShare, more, less⟩ := exists_isSteps_tenth
  have unit := twoTo_le_stepsPerUnit
  have half := stepsPerUnit_eq_two_mul_halfSteps
  have abs := start.abs
  rw [Int.natAbs_natCast] at abs
  have part : share ≤ stepsPerUnit := by omega
  have normal : twoTo 52 * stepsPerUnit ≤ low * share := by
    rw [Nat.mul_comm low]
    refine Nat.mul_le_mul ?_ tall
    simp only [twoTo, Nat.pow_eq, Nat.reducePow] at unit ⊢
    omega
  have above := Nat.mul_le_mul_left low more
  have below := Nat.mul_le_mul_left low less
  rw [Nat.mul_left_comm, Nat.mul_left_comm low] at above below
  obtain ⟨upper, lower⟩ := nearest_near normal stepsPerUnit_pos
  have tenth := abs.mul_share isShare part
  generalize nearest (low * share) stepsPerUnit = size at *
  simp only [twoTo, Nat.pow_eq, Nat.reducePow] at upper lower
  have atLeast : low ≤ 12 * size := by
    refine Nat.le_of_mul_le_mul_right ?_ stepsPerUnit_pos
    rw [Nat.mul_assoc]
    omega
  have atMost : 2 * size ≤ low := by
    refine Nat.le_of_mul_le_mul_right ?_ stepsPerUnit_pos
    rw [Nat.mul_assoc]
    omega
  exact ⟨_, isSteps_greater tenth isSteps_constants.2.2, by omega, by omega⟩

/-- A narrow axis from one or more is widened until it is wide. -/
theorem spans_padded_of_narrow (start : IsSteps axis.start low) (stop : IsSteps axis.stop high)
    (ordered : low ≤ high) (tall : stepsPerUnit ≤ low) (bounded : high ≤ twoTo 64 * stepsPerUnit)
    (narrow : nearest (high - low) 1 ≤ narrowness high) :
    ∃ low' high', Spans (axis.padded 0) low' high' ∧ Resolved (axis.padded 0) := by
  obtain ⟨margin, isMargin, atLeast, atMost⟩ := exists_margin start tall
  have unit := twoTo_le_stepsPerUnit
  have room := eight_words_le
  have close := close_of_narrow (Nat.le_trans tall ordered) narrow
  have widened : axis.padded 0
      = ⟨axis.start - greater (axis.start.abs * 0.1) 0.5,
          axis.stop + greater (axis.start.abs * 0.1) 0.5⟩ := by
    rw [Range.padded, if_pos]
    exact (narrow_iff start stop ordered bounded).mpr narrow
  have first := start.sub_natCast isMargin (by omega) (by omega)
  have last := stop.add_natCast isMargin (by omega)
  have lower : nearest (low - margin) 1 ≤ low :=
    nearest_le_of_le Nat.one_pos start.representable.gap_dvd (by omega)
  have normal : twoTo 52 * 1 ≤ high + margin := by
    simp only [twoTo, Nat.pow_eq, Nat.reducePow] at unit ⊢
    omega
  have higher := nearest_near normal Nat.one_pos
  generalize nearest (low - margin) 1 = low' at *
  generalize nearest (high + margin) 1 = high' at *
  simp only [twoTo, Nat.pow_eq, Nat.reducePow, Nat.mul_one] at close higher unit bounded room
  have spans : Spans ⟨axis.start - greater (axis.start.abs * 0.1) 0.5,
      axis.stop + greater (axis.start.abs * 0.1) 0.5⟩ low' high' :=
    ⟨first, last, by omega, by omega, by omega⟩
  have wide : twoTo 52 * 1 ≤ high' - low' := by
    simp only [twoTo, Nat.pow_eq, Nat.reducePow]
    omega
  have tall' : twoTo 52 ≤ high' - 1 := by
    simp only [twoTo, Nat.pow_eq, Nat.reducePow]
    omega
  have width := (nearest_near wide Nat.one_pos).2
  have distance := gap_mul_le tall'
  simp only [twoTo, Nat.pow_eq, Nat.reducePow, Nat.mul_one] at width distance
  rw [widened]
  exact ⟨low', high', spans, spans.resolved_iff.mpr (by omega)⟩

/-! ## The bottom axis -/

/-- The bottom axis from a least to a greatest round. -/
def bottomAxis (least greatest : UInt64) : Range :=
  Range.padded ⟨least.toFloat, greatest.toFloat⟩ 0

/-- The three kinds of bottom axes: that of the round zero alone, the one that was widened, and
the one from round to round. -/
theorem Bounds.bottomAxis_cases (bounds : Bounds rounds least greatest) :
    (least = 0 ∧ greatest = 0)
    ∨ (∃ low high, Spans (bottomAxis least greatest) low high
      ∧ Resolved (bottomAxis least greatest))
    ∨ Spans (bottomAxis least greatest) (roundSteps least) (roundSteps greatest) := by
  have start : IsSteps (Range.mk least.toFloat greatest.toFloat).start (roundSteps least) :=
    isSteps_toFloat least
  have stop : IsSteps (Range.mk least.toFloat greatest.toFloat).stop (roundSteps greatest) :=
    isSteps_toFloat greatest
  have ordered := bounds.least_le greatest bounds.greatest_mem
  have bounded := roundSteps_le greatest
  have tall (round : UInt64) : roundSteps round = 0 ∨ stepsPerUnit ≤ roundSteps round := by
    by_cases zero : round = 0
    · exact .inl (zero ▸ roundSteps_zero)
    · exact .inr (unit_le_roundSteps zero)
  have zero_of {round : UInt64} (none : roundSteps round = 0) : round = 0 := by
    refine Classical.byContradiction fun nonzero => ?_
    have unit := stepsPerUnit_pos
    have := unit_le_roundSteps nonzero
    omega
  rcases Nat.lt_or_ge (narrowness (roundSteps greatest))
    (nearest (roundSteps greatest - roundSteps least) 1) with wide | narrow
  · exact .inr (.inr (spans_padded_of_not_narrow start stop ordered (tall greatest) bounded wide))
  · rcases tall least with none | one
    · rw [none] at narrow
      exact .inl ⟨zero_of none, zero_of (eq_zero_of_narrow (tall greatest) narrow)⟩
    · exact .inr (.inl (spans_padded_of_narrow start stop ordered one bounded narrow))

/-- The rounds that a chart shows. -/
def roundsOf (content : Content) : List UInt64 :=
  content.series.flatMap fun series => series.points.map Trend.Point.round

/-- A chart with a point has axes, the bottom one from its least round to its greatest. -/
theorem exists_axesOf {content : Content} (options : Options)
    (shown : ∃ series ∈ content.series, series.points ≠ []) :
    ∃ axes least greatest, axesOf content options = .ok axes
      ∧ Bounds (roundsOf content) least greatest ∧ axes.rounds = bottomAxis least greatest := by
  have nonempty : roundsOf content ≠ [] := by
    obtain ⟨series, member, points⟩ := shown
    obtain ⟨point, inPoints⟩ := List.exists_mem_of_ne_nil _ points
    exact List.ne_nil_of_mem
      (List.mem_flatMap.mpr ⟨series, member, List.mem_map_of_mem inPoints⟩)
  obtain ⟨least, greatest, bounds, ranged⟩ := exists_rangeOf? nonempty
  have values : (content.series.flatMap fun series => series.points.map roundValue)
      = (roundsOf content).map UInt64.toFloat := by
    simp only [roundsOf, List.map_flatMap, List.map_map]
    rfl
  unfold axesOf
  rw [values, ranged]
  exact ⟨_, least, greatest, rfl, bounds, rfl⟩

theorem resolved_bottomAxis_zero : Resolved (bottomAxis 0 0) := by
  show _ ≤ _
  decide +kernel

/-- An axis between rounds up to `2^47` is wide. -/
theorem Bounds.resolved_of_le (bounds : Bounds rounds least greatest)
    (small : ∀ round ∈ rounds, round.toNat ≤ twoTo 47) :
    Resolved (bottomAxis least greatest) := by
  rcases bounds.bottomAxis_cases with ⟨rfl, rfl⟩ | ⟨low, high, -, resolved⟩ | spans
  · exact resolved_bottomAxis_zero
  · exact resolved
  · have ordered := spans.ordered
    have least_le := small least bounds.least_mem
    have greatest_le := small greatest bounds.greatest_mem
    have few : twoTo 47 ≤ twoTo 53 := by decide
    have unit : 42 * gap (twoTo 47 * stepsPerUnit - 1) ≤ stepsPerUnit := by decide +kernel
    have first := roundSteps_of_le (Nat.le_trans least_le few)
    have last := roundSteps_of_le (Nat.le_trans greatest_le few)
    rw [spans.resolved_iff, first, last]
    rw [first, last] at ordered
    have apart := Nat.lt_of_mul_lt_mul_right ordered
    have below : gap (greatest.toNat * stepsPerUnit - 1)
        ≤ gap (twoTo 47 * stepsPerUnit - 1) :=
      gap_le_gap (Nat.sub_le_sub_right (Nat.mul_le_mul_right _ greatest_le) 1)
    have width : stepsPerUnit ≤ (greatest.toNat - least.toNat) * stepsPerUnit :=
      Nat.le_mul_of_pos_left _ (by omega)
    rw [← Nat.sub_mul, nearest_one (gap_dvd_units (by omega))]
    omega

end DeltaStudy.Chart
