import DeltaStudy.Proofs.Chart.Dashes
import DeltaStudy.Proofs.Chart.Ranges

/-!
# Dashes stay on the axis

Dashes are drawn one after another from the start of an axis on. However many there are so far,
they lie on the axis, in their order and apart, and the next one would begin behind them. When
there is no next one, a gap behind the last of them reaches the end of the axis.

This holds of every axis with finite ends of which the one is before the other. Its width may be
infinite, and dashes and gaps may be lost in rounding. Whether the end is ever reached is not
said here.
-/

namespace DeltaStudy.Chart

open Numeral

/-! ## Runs cut short -/

section Runs

variable {State Item : Type} {next? : Stepper State Item} {state : State}

/-- What a number of steps from a state on makes, and the state that they lead to. Behind the end
there are no more steps. -/
def Stepper.after (next? : Stepper State Item) (state : State) : Nat → List Item × State
  | 0 => ([], state)
  | count + 1 =>
    let made := next?.after state count
    match next? made.2 with
    | none => made
    | some (item, later) => (made.1 ++ [item], later)

/-- What holds at the beginning and is kept by every step holds after any number of them. -/
theorem Stepper.after_induction {Kept : List Item → State → Prop} (initial : Kept [] state)
    (step : ∀ {items reached item later}, Kept items reached → next? reached = some (item, later) →
      Kept (items ++ [item]) later) (count : Nat) :
    Kept (next?.after state count).1 (next?.after state count).2 := by
  induction count with
  | zero => exact initial
  | succ count inductionHypothesis =>
    rw [after]
    split
    case h_1 => exact inductionHypothesis
    case h_2 item later made => exact step inductionHypothesis made

/-- Every step makes one item more until the end is reached. -/
theorem Stepper.length_after (next? : Stepper State Item) (state : State) (count : Nat) :
    (next?.after state count).1.length = count ∨ next? (next?.after state count).2 = none := by
  induction count with
  | zero => exact .inl rfl
  | succ count inductionHypothesis =>
    rw [after]
    split
    case h_1 done => exact .inr done
    case h_2 item later made =>
      refine .inl ?_
      rw [List.length_append, inductionHypothesis.resolve_right (by simp [made])]
      rfl

/-- All that is made begins with what a number of steps makes. -/
theorem Stepper.unroll_eq_append (next? : Stepper State Item) (state : State) (count : Nat) :
    next?.unroll state
      = (next?.unroll (next?.after state count).2).map ((next?.after state count).1 ++ ·) := by
  induction count with
  | zero => exact Option.map_id_fun.symm ▸ rfl
  | succ count inductionHypothesis =>
    rw [after]
    split
    case h_1 => exact inductionHypothesis
    case h_2 item later made =>
      rw [inductionHypothesis, unroll_of_some made, Option.map_map]
      exact congrArg (Option.map · _) (funext fun rest => List.append_cons _ item rest)

end Runs

/-! ## One dash more -/

variable {axis : Range} {drawn : List Dash} {dash : Dash} {place next value : Float}

/-- A dash at a height, as it is drawn. -/
def Dash.strand (dash : Dash) (height : Float) : List Place :=
  [(dash.start, height), (dash.stop, height)]

/-- An axis from one finite place to a later one. -/
structure Range.Proper (axis : Range) : Prop where
  start : axis.start.isFinite = true
  stop : axis.stop.isFinite = true
  ordered : axis.start < axis.stop

theorem nextDash?_eq_some_iff :
    nextDash? axis place = some (dash, next) ↔
      place < axis.stop
      ∧ dash = ⟨place, lesser (place + dashLength axis.width) axis.stop⟩
      ∧ next = dash.stop + gapLength axis.width := by
  rw [nextDash?]
  by_cases before : place < axis.stop
  · rw [if_pos before, Option.some.injEq, Prod.mk.injEq]
    constructor
    · rintro ⟨rfl, rfl⟩
      exact ⟨before, rfl, rfl⟩
    · rintro ⟨-, rfl, rfl⟩
      exact ⟨rfl, rfl⟩
  · simp [before]

/-- What lies between finite doubles is finite. -/
theorem Range.Proper.isFinite (proper : axis.Proper) (holds : axis.Holds value) :
    value.isFinite = true := by
  obtain ⟨⟨rank, ranked⟩, -⟩ := exists_ranked_of_le holds.2
  have isStart : IsSteps axis.start (exactSteps axis.start) := ⟨proper.start, rfl⟩
  have isStop : IsSteps axis.stop (exactSteps axis.stop) := ⟨proper.stop, rfl⟩
  have above := (isStart.ranked.le_iff ranked).mp holds.1
  have below := (ranked.le_iff isStop.ranked).mp holds.2
  rcases ranked.isSteps_or_infinity with isSteps | ⟨sign, -, rfl⟩
  · exact isSteps.finite
  · have lower := isStart.representable.lt_overflow
    have upper := isStop.representable.lt_overflow
    cases sign with
    | negative =>
      have outside : exactSteps axis.start ≤ -(overflowSteps : Int) := above
      omega
    | positive =>
      have outside : (overflowSteps : Int) ≤ exactSteps axis.stop := below
      omega

/-- Dashes and gaps do not lead back, however wide the axis is. -/
theorem Range.Proper.lengths_nonneg (proper : axis.Proper) :
    0 ≤ dashLength axis.width ∧ 0 ≤ gapLength axis.width := by
  have shares : (IsSteps 0.012 (exactSteps 0.012) ∧ 0 < exactSteps 0.012)
      ∧ (IsSteps 0.008 (exactSteps 0.008) ∧ 0 < exactSteps 0.008) := by
    decide +kernel
  have width := width_nonneg proper.start proper.stop (Double.le_of_lt proper.ordered)
  have dash := shares.1.1.mul_nonneg shares.1.2 width
  obtain ⟨-, rank, ranked⟩ := exists_ranked_of_le dash
  have least := isSteps_shares.2.2.ranked.isNaN_eq
  exact ⟨Double.le_trans dash (le_greater ranked.isNaN_eq least).1,
    shares.2.1.mul_nonneg shares.2.2 width⟩

/-- A dash from a place on the axis on ends behind it and on the axis, and the next one begins
behind that. -/
theorem Range.Proper.nextDash? (proper : axis.Proper) (reached : axis.start ≤ place)
    (drawn : nextDash? axis place = some (dash, next)) :
    place < axis.stop ∧ dash.start = place ∧ place ≤ dash.stop ∧ dash.stop ≤ axis.stop
      ∧ dash.stop ≤ next ∧ next = dash.stop + gapLength axis.width := by
  obtain ⟨before, rfl, rfl⟩ := nextDash?_eq_some_iff.mp drawn
  obtain ⟨dashLong, gapLong⟩ := proper.lengths_nonneg
  have isPlace : IsSteps place (exactSteps place) :=
    ⟨proper.isFinite ⟨reached, Double.le_of_lt before⟩, rfl⟩
  have forward := (isPlace.le_add_and_sub_le dashLong).1
  obtain ⟨-, rank, ranked⟩ := exists_ranked_of_le forward
  have stopLe := (lesser_le ranked.isNaN_eq (isNaN_eq_of_isFinite proper.stop)).2
  have leStop : place ≤ lesser (place + dashLength axis.width) axis.stop := by
    rw [lesser]
    split
    · exact Double.le_of_lt before
    · exact forward
  have isStop : IsSteps (lesser (place + dashLength axis.width) axis.stop) _ :=
    ⟨proper.isFinite ⟨Double.le_trans reached leStop, stopLe⟩, rfl⟩
  exact ⟨before, rfl, leStop, stopLe, (isStop.le_add_and_sub_le gapLong).1, rfl⟩

/-! ## Any number of dashes -/

/-- What holds of the dashes that are drawn along an axis so far, and of the place where the next
one would begin. -/
structure OnAxis (axis : Range) (drawn : List Dash) (place : Float) : Prop where
  /-- The first dash begins with the axis. -/
  first : ∀ dash, drawn.head? = some dash → dash.start = axis.start
  /-- Every dash begins before the end of the axis. -/
  before : ∀ dash ∈ drawn, dash.start < axis.stop
  /-- Every dash leads forward and ends on the axis. -/
  within : ∀ dash ∈ drawn, dash.start ≤ dash.stop ∧ dash.stop ≤ axis.stop
  /-- A later dash does not begin before an earlier one ends. -/
  apart : drawn.Pairwise fun earlier later => earlier.stop ≤ later.start
  /-- The next dash would not begin on one that there is. -/
  behind : ∀ dash ∈ drawn, dash.stop ≤ place
  /-- The next dash would begin with the axis, or a gap behind the last one. -/
  follows : place
    = (drawn.getLast?.map fun last => last.stop + gapLength axis.width).getD axis.start
  /-- No place before the axis is reached. -/
  reached : axis.start ≤ place

theorem OnAxis.initial (proper : axis.Proper) : OnAxis axis [] axis.start where
  first := by simp
  before := by simp
  within := by simp
  apart := List.Pairwise.nil
  behind := by simp
  follows := rfl
  reached := Double.le_refl (isNaN_eq_of_isFinite proper.start)

/-- One dash more keeps all of this. -/
theorem OnAxis.concat (proper : axis.Proper) (onAxis : OnAxis axis drawn place)
    (more : nextDash? axis place = some (dash, next)) : OnAxis axis (drawn ++ [dash]) next := by
  obtain ⟨before, starts, leStop, stopLe, leNext, nextEq⟩ := proper.nextDash? onAxis.reached more
  have forward := Double.le_trans leStop leNext
  refine ⟨?_, ?_, ?_, ?_, ?_, ?_, Double.le_trans onAxis.reached forward⟩
  · intro first isFirst
    cases drawn with
    | nil =>
      obtain rfl := Option.some.inj isFirst
      exact starts.trans onAxis.follows
    | cons head rest => exact onAxis.first first isFirst
  · intro other member
    rcases List.mem_append.mp member with old | new
    · exact onAxis.before other old
    · rw [List.mem_singleton.mp new, starts]
      exact before
  · intro other member
    rcases List.mem_append.mp member with old | new
    · exact onAxis.within other old
    · rw [List.mem_singleton.mp new, starts]
      exact ⟨leStop, stopLe⟩
  · refine List.pairwise_append.mpr ⟨onAxis.apart, List.pairwise_singleton _ _, ?_⟩
    intro earlier old later new
    rw [List.mem_singleton.mp new, starts]
    exact onAxis.behind earlier old
  · intro other member
    rcases List.mem_append.mp member with old | new
    · exact Double.le_trans (onAxis.behind other old) forward
    · rw [List.mem_singleton.mp new]
      exact leNext
  · rw [List.getLast?_concat]
    exact nextEq

/-- When there is no next dash, a gap behind the last one reaches the end of the axis. -/
theorem OnAxis.exists_last (proper : axis.Proper) (onAxis : OnAxis axis drawn place)
    (done : nextDash? axis place = none) :
    ∃ last, drawn.getLast? = some last ∧ axis.stop ≤ last.stop + gapLength axis.width := by
  have after : ¬ place < axis.stop := by
    intro before
    rw [nextDash?, if_pos before] at done
    cases done
  have follows := onAxis.follows
  cases ends : drawn.getLast? with
  | none =>
    rw [ends] at follows
    exact absurd (follows ▸ proper.ordered) after
  | some last =>
    rw [ends] at follows
    obtain ⟨-, rank, ranked⟩ := exists_ranked_of_le onAxis.reached
    have reaches := Double.le_of_not_lt ranked.isNaN_eq (isNaN_eq_of_isFinite proper.stop) after
    rw [follows] at reaches
    exact ⟨last, rfl, reaches⟩

/-- However many dashes are drawn along an axis at a height so far, they stay on the axis, and the
place of the next one stays behind them. When there is no next one, a gap behind the last one
reaches the end of the axis, and what is drawn is the whole reference. -/
theorem dashes_onAxis (start : axis.start.isFinite = true) (stop : axis.stop.isFinite = true)
    (ordered : axis.start < axis.stop) (height : Float) (count : Nat) :
    ∃ drawn place, Stepper.after (nextDash? axis) axis.start count = (drawn, place)
      ∧ (drawn.length = count ∨ nextDash? axis place = none)
      ∧ OnAxis axis drawn place
      ∧ (∀ strand ∈ drawn.map (Dash.strand · height), ∀ place ∈ strand, place.2 = height)
      ∧ (nextDash? axis place = none →
        (∃ last, drawn.getLast? = some last ∧ axis.stop ≤ last.stop + gapLength axis.width)
        ∧ dashes? axis = some drawn
        ∧ referenceStrands axis height = drawn.map (Dash.strand · height)) := by
  have proper : axis.Proper := ⟨start, stop, ordered⟩
  have onAxis := Stepper.after_induction (OnAxis.initial proper) (OnAxis.concat proper) count
  refine ⟨_, _, rfl, Stepper.length_after _ _ count, onAxis, ?_, fun done => ?_⟩
  · intro strand member place inStrand
    obtain ⟨dash, -, rfl⟩ := List.mem_map.mp member
    rcases List.mem_pair.mp inStrand with rfl | rfl
    · rfl
    · rfl
  · have whole := Stepper.unroll_eq_append (nextDash? axis) axis.start count
    rw [Stepper.unroll_of_none done, Option.map_some, List.append_nil] at whole
    refine ⟨onAxis.exists_last proper done, whole, ?_⟩
    rw [referenceStrands, dashes, dashes?, whole, Option.getD_some]
    rfl

/-- The axis along all finite doubles. -/
def widestAxis : Range :=
  ⟨Float.ofBits 0xffefffffffffffff, Float.ofBits 0x7fefffffffffffff⟩

/-- Along the axis of all finite doubles, which is infinitely wide, there is one dash, and the gap
behind it is infinite. -/
theorem dashes_onAxis_widest :
    (widestAxis.start.isFinite = true ∧ widestAxis.stop.isFinite = true
      ∧ widestAxis.start < widestAxis.stop ∧ widestAxis.width.isInf = true)
    ∧ ∃ last, dashes? widestAxis = some [last]
      ∧ OnAxis widestAxis [last] (gapLength widestAxis.width)
      ∧ widestAxis.stop ≤ last.stop + gapLength widestAxis.width := by
  have proper : widestAxis.start.isFinite = true ∧ widestAxis.stop.isFinite = true
      ∧ widestAxis.start < widestAxis.stop ∧ widestAxis.width.isInf = true
      ∧ nextDash? widestAxis (gapLength widestAxis.width) = none
      ∧ Stepper.after (nextDash? widestAxis) widestAxis.start 1
        = ([⟨widestAxis.start, widestAxis.stop⟩], gapLength widestAxis.width) := by
    decide +kernel
  obtain ⟨start, stop, ordered, wide, done, once⟩ := proper
  obtain ⟨drawn, place, made, -, onAxis, -, ended⟩ := dashes_onAxis start stop ordered 0.5 1
  obtain ⟨rfl, rfl⟩ := Prod.mk.inj (once.symm.trans made)
  obtain ⟨⟨last, ends, reaches⟩, whole, -⟩ := ended done
  obtain rfl := Option.some.inj ends
  exact ⟨⟨start, stop, ordered, wide⟩, _, whole, onAxis, reaches⟩

end DeltaStudy.Chart
