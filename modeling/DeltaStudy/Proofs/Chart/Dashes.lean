import DeltaStudy.Chart.Drawing
import DeltaStudy.Proofs.Chart.Axes

/-!
# When dashed lines end

A dash moves the place of the next one forward if it is longer than half of the distance of the
doubles around it. On a bottom axis that is wide against that distance every dash is, so
the end is reached. On any other bottom axis no dash is, and the end is never reached.

How many dashes there are is not said here.
-/

namespace DeltaStudy.Chart

open Numeral

variable {axis : Range} {place : Float} {low high width share half reached : Nat}

/-! ## Runs -/

section Runs

variable {State Item : Type} {next? : Stepper State Item} {state later : State} {item : Item}

theorem Stepper.unroll_of_none (done : next? state = none) : next?.unroll state = some [] := by
  rw [unroll, done]

theorem Stepper.unroll_of_some (made : next? state = some (item, later)) :
    next?.unroll state = (next?.unroll later).map (item :: ·) := by
  rw [unroll, made]
  exact Option.map_eq_bind.symm

/-- States that are never left, and from which there is always a step, come to no end. -/
theorem Stepper.unroll_eq_none {Kept : State → Prop}
    (step : ∀ state, Kept state → ∃ item later, next? state = some (item, later) ∧ Kept later)
    (kept : Kept state) : next?.unroll state = none := by
  have unfinished (items : List Item) :
      ∀ state, Kept state → next?.unroll state ≠ some items := by
    induction items with
    | nil =>
      intro state kept ended
      obtain ⟨item, later, made, -⟩ := step state kept
      rw [unroll_of_some made] at ended
      obtain ⟨rest, -, impossible⟩ := Option.map_eq_some_iff.mp ended
      cases impossible
    | cons first rest inductionHypothesis =>
      intro state kept ended
      obtain ⟨item, later, made, keptLater⟩ := step state kept
      rw [unroll_of_some made] at ended
      obtain ⟨others, endedLater, same⟩ := Option.map_eq_some_iff.mp ended
      obtain ⟨-, rfl⟩ := List.cons_eq_cons.mp same
      exact inductionHypothesis later keptLater endedLater
  cases ended : next?.unroll state with
  | none => rfl
  | some items => exact absurd ended (unfinished items state kept)

end Runs

/-- Dashes from a place on come to an end, each of them moving forward. -/
inductive Ends (axis : Range) : Float → Prop
  | stop {place : Float} (done : nextDash? axis place = none) : Ends axis place
  | step {place next : Float} {dash : Dash} (drawn : nextDash? axis place = some (dash, next))
    (forward : place < next) (rest : Ends axis next) : Ends axis place

/-- Dashes that come to an end are drawn. -/
theorem Ends.exists_unroll (ends : Ends axis place) :
    ∃ drawn, Stepper.unroll (nextDash? axis) place = some drawn := by
  induction ends with
  | stop done => exact ⟨[], Stepper.unroll_of_none done⟩
  | @step place next dash drawn forward rest inductionHypothesis =>
    obtain ⟨dashes, later⟩ := inductionHypothesis
    exact ⟨dash :: dashes, by rw [Stepper.unroll_of_some drawn, later, Option.map_some]⟩

/-- Where a dash leads back to its beginning, there is no end. -/
theorem dashes?_eq_none_of_still {dash : Dash}
    (still : nextDash? axis axis.start = some (dash, axis.start)) : dashes? axis = none := by
  have step (place : Float) (kept : place = axis.start) :
      ∃ dash next, nextDash? axis place = some (dash, next) ∧ next = axis.start := by
    rw [kept]
    exact ⟨dash, _, still, rfl⟩
  exact Stepper.unroll_eq_none step rfl

/-! ## One dash in steps -/

/-- The steps of the share of the width that a dash takes. -/
def dashShare : Nat :=
  (exactSteps 0.012).toNat

/-- The steps of the share of the width that a gap takes. -/
def gapShare : Nat :=
  (exactSteps 0.008).toNat

/-- The doubles that dashes and gaps are measured with. -/
theorem isSteps_shares :
    IsSteps 0.012 dashShare ∧ IsSteps 0.008 gapShare ∧ IsSteps leastLength (twoTo 52) := by
  decide +kernel

/-- A dash takes about twelve parts in a thousand of the width, and a gap takes less. -/
theorem shares_near :
    1195 * stepsPerUnit ≤ 100000 * dashShare ∧ 100000 * dashShare ≤ 1204 * stepsPerUnit
    ∧ 100000 * gapShare ≤ 1204 * stepsPerUnit := by
  decide +kernel

/-- The length of a dash on an axis of a given width. -/
def dashSteps (width : Nat) : Nat :=
  max (nearest (width * dashShare) stepsPerUnit) (twoTo 52)

/-- The length of a gap on an axis of a given width. -/
def gapSteps (width : Nat) : Nat :=
  nearest (width * gapShare) stepsPerUnit

/-- Where the dash ends that begins at a given number of steps. -/
def stopSteps (high width reached : Nat) : Nat :=
  min (nearest (reached + dashSteps width) 1) high

/-- Where the dash begins that follows the one from a given number of steps. -/
def nextSteps (high width reached : Nat) : Nat :=
  nearest (stopSteps high width reached + gapSteps width) 1

/-- The width of an axis is not larger than its end. -/
theorem Spans.width_le (spans : Spans axis low high) : nearest (high - low) 1 ≤ high := by
  refine nearest_le_of_le Nat.one_pos spans.stop.representable.gap_dvd ?_
  rw [Nat.mul_one]
  exact Nat.sub_le high low

/-- There is no dash from the end of an axis on. -/
theorem Spans.nextDash?_of_le (spans : Spans axis low high) (isSteps : IsSteps place reached)
    (after : high ≤ reached) : nextDash? axis place = none := by
  rw [nextDash?, if_neg]
  rw [isSteps.lt_iff spans.stop, Int.ofNat_lt]
  exact Nat.not_lt.mpr after

/-- The dash before the end of an axis, and where the next one begins. -/
theorem Spans.nextDash?_of_lt (spans : Spans axis low high) (isSteps : IsSteps place reached)
    (before : reached < high) :
    ∃ dash next, nextDash? axis place = some (dash, next)
      ∧ IsSteps next (nextSteps high (nearest (high - low) 1) reached) := by
  obtain ⟨isDash, isGap, isLeast⟩ := isSteps_shares
  obtain ⟨-, dashPart, gapPart⟩ := shares_near
  have isWidth := spans.width
  have tall := spans.tall
  have bounded := spans.bounded
  have widthLe := spans.width_le
  have least : twoTo 52 ≤ stepsPerUnit :=
    Nat.le_trans (twoTo_le_twoTo (by decide)) twoTo_le_stepsPerUnit
  have dashLe := isWidth.nearest_share_le (by omega : dashShare ≤ stepsPerUnit)
  have gapLe := isWidth.nearest_share_le (by omega : gapShare ≤ stepsPerUnit)
  have dash : IsSteps (dashLength axis.width) (dashSteps (nearest (high - low) 1)) :=
    isSteps_greater (isWidth.mul_share isDash (by omega)) isLeast
  have gap : IsSteps (gapLength axis.width) (gapSteps (nearest (high - low) 1)) :=
    isWidth.mul_share isGap (by omega)
  have dashRoom : dashSteps (nearest (high - low) 1) ≤ high :=
    Nat.max_le.mpr ⟨by omega, by omega⟩
  have gapRoom : gapSteps (nearest (high - low) 1) ≤ high := Nat.le_trans gapLe widthLe
  have stop : IsSteps (lesser (place + dashLength axis.width) axis.stop)
      (stopSteps high (nearest (high - low) 1) reached) :=
    isSteps_lesser (isSteps.add_natCast dash (by omega)) spans.stop
  have stopRoom : stopSteps high (nearest (high - low) 1) reached ≤ high := Nat.min_le_right _ _
  have next := stop.add_natCast gap (by omega)
  refine ⟨⟨place, lesser (place + dashLength axis.width) axis.stop⟩, _, ?_, next⟩
  rw [nextDash?, if_pos ((isSteps.lt_iff spans.stop).mpr (Int.ofNat_lt.mpr before))]

/-! ## Wide axes -/

/-- A dash on an axis of 42 gaps is longer than half of a gap. -/
theorem gap_lt_two_mul_dashSteps {grain : Nat} (wide : 42 * grain ≤ width) :
    grain < 2 * dashSteps width := by
  have longer : nearest (width * dashShare) stepsPerUnit ≤ dashSteps width := Nat.le_max_left _ _
  have least : twoTo 52 ≤ dashSteps width := Nat.le_max_right _ _
  rcases Nat.lt_or_ge grain (twoTo 53) with small | large
  · simp only [twoTo, Nat.pow_eq, Nat.reducePow] at small least
    omega
  · refine Nat.lt_of_lt_of_le ?_ (Nat.mul_le_mul_left 2 longer)
    have shared := Nat.mul_le_mul_left width shares_near.1
    have scaled := Nat.mul_le_mul_right stepsPerUnit wide
    have scaledLarge := Nat.mul_le_mul_right stepsPerUnit large
    rw [Nat.mul_left_comm, Nat.mul_left_comm width] at shared
    rw [Nat.mul_assoc] at scaled
    have normal : twoTo 52 * stepsPerUnit ≤ width * dashShare := by
      simp only [twoTo, Nat.pow_eq, Nat.reducePow] at scaledLarge ⊢
      omega
    have near := (nearest_near normal stepsPerUnit_pos).2
    have positive := Nat.mul_pos (Nat.lt_of_lt_of_le (twoTo_pos 53) large) stepsPerUnit_pos
    refine Nat.lt_of_mul_lt_mul_right (a := stepsPerUnit) ?_
    rw [Nat.mul_assoc]
    simp only [twoTo, Nat.pow_eq, Nat.reducePow] at near
    omega

/-- The double after one that a dash longer than half of their distance begins at is reached. -/
theorem lt_nearest_add (divides : gap reached ∣ reached) {size : Nat}
    (long : gap reached < 2 * size) : reached < nearest (reached + size) 1 := by
  have positive := gap_pos reached
  have later : gap (reached + gap reached) ∣ reached + gap reached := by
    obtain ⟨wholes, counted⟩ := divides
    have few : wholes + 1 ≤ twoTo 53 := by
      have upper := lt_gap_mul reached
      rw [counted] at upper
      refine Nat.lt_of_mul_lt_mul_left (a := gap reached) ?_
      rwa [← counted] at upper ⊢
    have next : reached + gap reached = (wholes + 1) * twoTo (reached.log2 - 52) := by
      rw [Nat.succ_mul, Nat.mul_comm wholes]
      exact congrArg (· + gap reached) counted
    rw [next]
    exact gap_dvd_of_le few _
  have before : gap reached ≤ gap (reached + gap reached - 1) := gap_le_gap (by omega)
  have rounded : reached + gap reached ≤ nearest (reached + size) 1 :=
    le_nearest Nat.one_pos later (by omega)
  omega

/-- On a wide axis the next dash begins after the one before. -/
theorem Spans.lt_nextSteps (spans : Spans axis low high) (resolved : Resolved axis)
    (isSteps : IsSteps place reached) (before : reached < high) :
    reached < nextSteps high (nearest (high - low) 1) reached := by
  have wide := spans.resolved_iff.mp resolved
  have grain : gap reached ≤ gap (high - 1) := gap_le_gap (by omega)
  have forward := lt_nearest_add isSteps.representable.gap_dvd
    (Nat.lt_of_le_of_lt grain (gap_lt_two_mul_dashSteps wide))
  have stopForward : reached < stopSteps high (nearest (high - low) 1) reached :=
    Nat.lt_min.mpr ⟨forward, before⟩
  have divides : gap (stopSteps high (nearest (high - low) 1) reached)
      ∣ stopSteps high (nearest (high - low) 1) reached := by
    rw [stopSteps]
    rcases Nat.le_total (nearest (reached + dashSteps (nearest (high - low) 1)) 1) high
      with below | above
    · rw [Nat.min_eq_left below]
      exact gap_dvd_nearest Nat.one_pos
    · rw [Nat.min_eq_right above]
      exact spans.stop.representable.gap_dvd
  refine Nat.lt_of_lt_of_le stopForward (le_nearest_of_le Nat.one_pos divides ?_)
  rw [Nat.mul_one]
  exact Nat.le_add_right _ _

/-- On a wide axis the end is reached, from wherever one begins. -/
theorem Spans.ends (spans : Spans axis low high) (resolved : Resolved axis)
    (isSteps : IsSteps place reached) : Ends axis place := by
  -- What is left of the axis decreases.
  induction left : high - reached using Nat.strong_induction_on generalizing place reached with
  | _ left inductionHypothesis =>
    rcases Nat.lt_or_ge reached high with before | after
    · obtain ⟨dash, next, drawn, isNext⟩ := spans.nextDash?_of_lt isSteps before
      have forward := spans.lt_nextSteps resolved isSteps before
      exact .step drawn ((isSteps.lt_iff isNext).mpr (Int.ofNat_lt.mpr forward))
        (inductionHypothesis _ (by omega) isNext rfl)
    · exact .stop (spans.nextDash?_of_le isSteps after)

/-! ## Narrow axes -/

/-- A dash or a gap on an axis of 83 half gaps is shorter than half of a gap. -/
theorem nearest_share_lt (small : 100000 * share ≤ 1204 * stepsPerUnit)
    (large : twoTo 52 < half) (narrow : width ≤ 83 * half) :
    nearest (width * share) stepsPerUnit < half := by
  rcases Nat.lt_or_ge (width * share) (twoTo 52 * stepsPerUnit) with below | normal
  · exact Nat.lt_of_le_of_lt
      (nearest_le_of_le stepsPerUnit_pos (gap_dvd_twoTo 52) (Nat.le_of_lt below)) large
  · have near := (nearest_near normal stepsPerUnit_pos).1
    have shared := Nat.mul_le_mul_left width small
    have scaled := Nat.mul_le_mul_right stepsPerUnit narrow
    have positive := Nat.mul_pos (Nat.lt_trans (twoTo_pos 52) large) stepsPerUnit_pos
    rw [Nat.mul_left_comm, Nat.mul_left_comm width] at shared
    rw [Nat.mul_assoc] at scaled
    refine Nat.lt_of_mul_lt_mul_right (a := stepsPerUnit) ?_
    simp only [twoTo, Nat.pow_eq, Nat.reducePow] at near
    omega

/-- Where dashes get stuck: a representable number before the end of the axis that has the gap of
the end, of which the width is 83 halves at most. -/
structure Ceiling (low high width ceiling half : Nat) : Prop where
  low_le : low ≤ ceiling
  lt_high : ceiling < high
  divides : gap ceiling ∣ ceiling
  gap_eq : gap ceiling = 2 * half
  large : twoTo 52 < half
  narrow : width ≤ 83 * half

/-- No dash leads beyond a ceiling. -/
theorem Ceiling.nextSteps_le {ceiling : Nat} (stuck : Ceiling low high width ceiling half)
    (below : reached ≤ ceiling) : nextSteps high width reached ≤ ceiling := by
  obtain ⟨-, dashPart, gapPart⟩ := shares_near
  have same := stuck.gap_eq
  have dashShort : dashSteps width < half :=
    Nat.max_lt.mpr ⟨nearest_share_lt dashPart stuck.large stuck.narrow, stuck.large⟩
  have gapShort : gapSteps width < half := nearest_share_lt gapPart stuck.large stuck.narrow
  have stopBelow : stopSteps high width reached ≤ ceiling :=
    Nat.le_trans (Nat.min_le_left _ _) (nearest_le Nat.one_pos stuck.divides (by omega))
  exact nearest_le Nat.one_pos stuck.divides (by omega)

/-- An axis of fewer than 42 gaps is one of 83 half gaps at most, for its ends are whole numbers of
half gaps. -/
theorem Spans.width_le_of_not_resolved {place : Nat} (spans : Spans axis low high)
    (grain : gap (high - 1) = 2 * twoTo place) (above : twoTo 53 * twoTo place ≤ high - 1)
    (narrow : ¬ Resolved axis) : nearest (high - low) 1 ≤ 83 * twoTo place := by
  rw [spans.resolved_iff, grain, ← twoTo_succ] at narrow
  have close : high - low < 42 * twoTo (place + 1) := by
    refine Nat.lt_of_not_le fun wide => narrow ?_
    refine le_nearest_of_le Nat.one_pos (gap_dvd_of_le (by decide) _) ?_
    rwa [Nat.mul_one]
  have start : twoTo (place + 52) = twoTo 52 * twoTo place := by
    rw [Nat.add_comm, twoTo_add]
  rw [twoTo_succ] at close
  have ordered := spans.ordered
  have large : twoTo (place + 52) ≤ low := by
    rw [start]
    simp only [twoTo, Nat.pow_eq, Nat.reducePow] at above close ⊢
    omega
  have lowWhole : twoTo place ∣ low :=
    twoTo_dvd_of_le spans.start.representable.gap_dvd large
  have highWhole : twoTo place ∣ high :=
    twoTo_dvd_of_le spans.stop.representable.gap_dvd
      (Nat.le_trans large (Nat.le_of_lt ordered))
  obtain ⟨halves, counted⟩ := Nat.dvd_sub highWhole lowWhole
  have few : halves < 84 := by
    refine Nat.lt_of_mul_lt_mul_left (a := twoTo place) ?_
    rw [← counted]
    omega
  refine nearest_le_of_le Nat.one_pos (gap_dvd_of_le (by decide) _) ?_
  rw [Nat.mul_one, counted, Nat.mul_comm]
  exact Nat.mul_le_mul_right _ (by omega)

/-- An axis that is not wide has a ceiling. -/
theorem Spans.exists_ceiling (spans : Spans axis low high) (narrow : ¬ Resolved axis) :
    ∃ ceiling half, Ceiling low high (nearest (high - low) 1) ceiling half := by
  have tall := Nat.le_trans twoTo_le_stepsPerUnit spans.tall
  have ordered := spans.ordered
  have long : twoTo 109 ≤ high - 1 := by
    simp only [twoTo, Nat.pow_eq, Nat.reducePow] at tall ⊢
    omega
  have positive : 0 < high - 1 := Nat.lt_of_lt_of_le (twoTo_pos 109) long
  have leading : 109 ≤ (high - 1).log2 := (Nat.le_log2 (Nat.ne_of_gt positive)).mpr long
  obtain ⟨place, same⟩ : ∃ place, (high - 1).log2 = place + 53 :=
    ⟨(high - 1).log2 - 53, by omega⟩
  obtain ⟨above, below⟩ := (log2_eq_iff positive).mp same
  have grain : gap (high - 1) = 2 * twoTo place := by
    rw [gap, same, ← twoTo_succ]
    rfl
  have start : twoTo (place + 53) = twoTo 53 * twoTo place := by
    rw [Nat.add_comm, twoTo_add]
  -- The ceiling is the start of the axis or of the binade of its end, whichever is later.
  have binade : (max low (twoTo (place + 53))).log2 = (high - 1).log2 := by
    rw [same]
    refine (log2_eq_iff (Nat.lt_of_lt_of_le (twoTo_pos _) (Nat.le_max_right _ _))).mpr ⟨?_, ?_⟩
    · exact Nat.le_max_right _ _
    · exact Nat.max_lt.mpr ⟨by omega, by omega⟩
  refine ⟨max low (twoTo (place + 53)), twoTo place, Nat.le_max_left _ _, ?_, ?_, ?_, ?_, ?_⟩
  · exact Nat.max_lt.mpr ⟨ordered, by omega⟩
  · rcases Nat.le_total low (twoTo (place + 53)) with before | after
    · rw [Nat.max_eq_right before]
      exact gap_dvd_twoTo _
    · rw [Nat.max_eq_left after]
      exact spans.start.representable.gap_dvd
  · rw [← grain]
    exact gap_eq_of_log2_eq binade
  · exact Nat.pow_lt_pow_right (by decide) (by omega)
  · exact spans.width_le_of_not_resolved grain (start ▸ above) narrow

/-- On an axis that is not wide the end is never reached. -/
theorem Spans.dashes?_eq_none (spans : Spans axis low high) (narrow : ¬ Resolved axis) :
    dashes? axis = none := by
  obtain ⟨ceiling, half, stuck⟩ := spans.exists_ceiling narrow
  have step (place : Float) (kept : ∃ reached : Nat, IsSteps place reached ∧ reached ≤ ceiling) :
      ∃ dash next, nextDash? axis place = some (dash, next)
        ∧ ∃ reached : Nat, IsSteps next reached ∧ reached ≤ ceiling := by
    obtain ⟨reached, isSteps, below⟩ := kept
    obtain ⟨dash, next, drawn, isNext⟩ :=
      spans.nextDash?_of_lt isSteps (Nat.lt_of_le_of_lt below stuck.lt_high)
    exact ⟨dash, next, drawn, _, isNext, stuck.nextSteps_le below⟩
  exact Stepper.unroll_eq_none step ⟨low, spans.start, stuck.low_le⟩

/-! ## The bottom axis -/

/-- Whether dashes from a place on come to an end within a number of steps, each of them moving
forward. -/
def endsWithin (axis : Range) : Nat → Float → Bool
  | 0, _ => false
  | fuel + 1, place =>
    match nextDash? axis place with
    | none => true
    | some (_, next) => decide (place < next) && endsWithin axis fuel next

theorem ends_of_endsWithin {fuel : Nat} (within : endsWithin axis fuel place = true) :
    Ends axis place := by
  induction fuel generalizing place with
  | zero => cases within
  | succ fuel inductionHypothesis =>
    rw [endsWithin] at within
    split at within
    case h_1 done => exact .stop done
    case h_2 dash next drawn =>
      obtain ⟨forward, rest⟩ := Bool.and_eq_true_iff.mp within
      exact .step drawn (decide_eq_true_iff.mp forward) (inductionHypothesis rest)

/-- The axis of the round zero alone is the half on either side of it. -/
theorem ends_bottomAxis_zero : Ends (bottomAxis 0 0) (bottomAxis 0 0).start :=
  ends_of_endsWithin (by decide +kernel : endsWithin (bottomAxis 0 0) 60 _ = true)

/-- Along a wide bottom axis the dashes come to an end, and along any other one they do not. -/
theorem Bounds.ends_or_dashes?_eq_none {rounds : List UInt64} {least greatest : UInt64}
    (bounds : Bounds rounds least greatest) :
    (Resolved (bottomAxis least greatest)
      → Ends (bottomAxis least greatest) (bottomAxis least greatest).start)
    ∧ (¬ Resolved (bottomAxis least greatest) → dashes? (bottomAxis least greatest) = none) := by
  rcases bounds.bottomAxis_cases with ⟨rfl, rfl⟩ | ⟨low, high, spans, resolved⟩ | spans
  · exact ⟨fun _ => ends_bottomAxis_zero, fun narrow => absurd resolved_bottomAxis_zero narrow⟩
  · exact ⟨fun _ => spans.ends resolved spans.start, fun narrow => absurd resolved narrow⟩
  · exact ⟨fun resolved => spans.ends resolved spans.start, spans.dashes?_eq_none⟩

/-- A chart with a point has a bottom axis along which the dashes come to an end if and only if
the axis is 42 times as wide as the distance of the doubles below its end. They move
forward one by one, and what is drawn is they. An axis is that wide
if no round is larger than `2^47`. -/
theorem axesOf_dashes (content : Content) (options : Options)
    (shown : ∃ series ∈ content.series, series.points ≠ []) :
    ∃ axes, axesOf content options = .ok axes
      ∧ (Resolved axes.rounds → Ends axes.rounds axes.rounds.start
        ∧ ∃ drawn, dashes? axes.rounds = some drawn ∧ ∀ height,
          referenceStrands axes.rounds height
            = drawn.map fun dash => [(dash.start, height), (dash.stop, height)])
      ∧ (¬ Resolved axes.rounds → dashes? axes.rounds = none)
      ∧ ((∀ round ∈ roundsOf content, round.toNat ≤ twoTo 47) → Resolved axes.rounds) := by
  obtain ⟨axes, least, greatest, computed, bounds, same⟩ := exists_axesOf options shown
  obtain ⟨reached, missed⟩ := bounds.ends_or_dashes?_eq_none
  rw [← same] at reached missed
  refine ⟨axes, computed, fun resolved => ?_, missed, fun small => ?_⟩
  · have ends := reached resolved
    obtain ⟨drawn, made⟩ := ends.exists_unroll
    refine ⟨ends, drawn, made, fun height => ?_⟩
    rw [referenceStrands, dashes, dashes?, made, Option.getD_some]
  · rw [same]
    exact bounds.resolved_of_le small

/-- A chart of one series through given rounds. -/
def chartThrough (rounds : List UInt64) : Content :=
  .ofSeries [⟨"series", some 1, true, rounds.map fun round => ⟨round, 1, 1, 0.5⟩⟩]

theorem roundsOf_chartThrough (rounds : List UInt64) : roundsOf (chartThrough rounds) = rounds := by
  simp [roundsOf, chartThrough, Content.ofSeries, Content.ofSeriesBy, Function.comp_def]

/-- A chart with everything that can be drawn. -/
def everything : Options :=
  ⟨5, false, ⟨"chart.svg"⟩, true, true, ""⟩

/-- A reference along the first two rounds is drawn. -/
theorem axesOf_dashes_first :
    (∃ series ∈ (chartThrough [1, 2]).series, series.points ≠ [])
    ∧ ∃ axes drawn, axesOf (chartThrough [1, 2]) everything = .ok axes
      ∧ dashes? axes.rounds = some drawn := by
  have shown : ∃ series ∈ (chartThrough [1, 2]).series, series.points ≠ [] :=
    ⟨_, List.mem_cons_self, List.cons_ne_nil _ _⟩
  obtain ⟨axes, computed, ends, -, small⟩ :=
    axesOf_dashes (chartThrough [1, 2]) everything shown
  have few : ∀ round ∈ roundsOf (chartThrough [1, 2]), round.toNat ≤ twoTo 47 := by
    simp [roundsOf_chartThrough, twoTo]
  obtain ⟨-, drawn, made, -⟩ := ends (small few)
  exact ⟨shown, axes, drawn, computed, made⟩

/-- On the axis from the round `2^47` to the next one, a dash ends where it begins, and the next
one begins there again. -/
theorem axesOf_dashes_neighbours :
    ∃ axes, axesOf (chartThrough [140737488355328, 140737488355329]) everything = .ok axes
      ∧ nextDash? axes.rounds axes.rounds.start
        = some (⟨axes.rounds.start, axes.rounds.start⟩, axes.rounds.start)
      ∧ dashes? axes.rounds = none := by
  have ranged : rangeOf? ((chartThrough [140737488355328, 140737488355329]).series.flatMap
      fun series => series.points.map roundValue)
        = some ⟨(140737488355328 : UInt64).toFloat, (140737488355329 : UInt64).toFloat⟩ := by
    decide +kernel
  have still : nextDash? (bottomAxis 140737488355328 140737488355329)
      (bottomAxis 140737488355328 140737488355329).start
        = some (⟨(bottomAxis 140737488355328 140737488355329).start,
            (bottomAxis 140737488355328 140737488355329).start⟩,
          (bottomAxis 140737488355328 140737488355329).start) := by
    decide +kernel
  unfold axesOf
  rw [ranged]
  exact ⟨_, rfl, still, dashes?_eq_none_of_still still⟩

end DeltaStudy.Chart
