import DeltaStudy.Chart.Axes
import DeltaStudy.Numeral.Fixed

/-!
# Ticks

The values that are written along an axis: multiples of a step that is one, two
or five times a power of ten, as small as a given number of ticks allows. Tick
values are rounded to a tenth of the power of ten so that no digits of the
binary representation show.

The step is found by dividing a power of ten ever further. Both loops count down
from a bound that no axis of finite width reaches.
-/

namespace DeltaStudy.Chart

/-- The number of ticks that an axis has at most. -/
def tickLimit : Nat := 11

/-- The number of ticks as a value to compare with. -/
def tickLimitValue : Float :=
  Trend.countValue tickLimit

/-- What is left of a value above a multiple of a step. A rest that is almost a
step is none. -/
def rest (value step : Float) : Float :=
  let remaining :=
    if step > 0 then value - (value / step).floor * step else value - (value / step).ceil * step
  if (remaining - step).abs < epsilon then 0 else remaining

/-- The first multiple of a step in a range. -/
def firstMultiple (range : Range) (step : Float) : Float :=
  let below := range.start - rest range.start step
  if below < range.start then below + step else below

/-- The last multiple of a step in a range. -/
def lastMultiple (range : Range) (step : Float) : Float :=
  range.stop - rest range.stop step

/-- A step together with the grain that tick values are rounded to. -/
structure Scale where
  /-- The distance of two ticks. -/
  step : Float
  /-- The grain of tick values. -/
  grain : Float

/-- Whether a power of ten, divided, gives too many ticks. -/
def tooFine (range : Range) (power divisor : Float) : Bool :=
  let step := power / divisor
  let count := 1 + (lastMultiple range step - firstMultiple range step) / power * divisor
  count.round > tickLimitValue

/-- The finest of the divided steps that is not too fine. The second part tells
whether all of them are coarse enough. -/
def divideStep (range : Range) (power : Float) : Float → List Float → Float × Bool
  | step, [] => (step, true)
  | step, divisor :: more =>
    if tooFine range power divisor then (step, false)
    else divideStep range power (power / divisor) more

/-- Divide the step by ten until a divided step is too fine. -/
def refine (range : Range) : Nat → Scale → Scale
  | 0, scale => scale
  | fuel + 1, scale =>
    match divideStep range scale.step scale.step [2, 5, 10] with
    | (step, false) => { scale with step }
    | (_, true) => refine range fuel ⟨scale.step / 10, scale.grain / 10⟩

/-- The scale to begin with: the power of ten below the width of the range. -/
def coarseScale (range : Range) : Scale :=
  let step := Float.pow 10 (range.width.log / Float.log 10).floor
  let scale : Scale := ⟨step, step / 10⟩
  if 1 + (range.width / step).floor > tickLimitValue then
    ⟨scale.step * 10, scale.grain * 10⟩
  else
    scale

/-- The ticks from a place on. Places are kept as a base and a distance from it,
so that small steps far from zero do not get lost. -/
def ticksFrom (scale : Scale) (base last : Float) : Nat → Float → List Float
  | 0, _ => []
  | fuel + 1, distance =>
    if last - distance - base ≥ -epsilon then
      let rounded := (distance / scale.grain).round * scale.grain
      let distance := if rounded < 0 then distance + scale.grain else distance
      (distance + base) :: ticksFrom scale base last fuel (distance + scale.step)
    else
      []

/-- The tick values of a range. -/
def tickValues (range : Range) : List Float :=
  if (range.start - range.stop).abs < epsilon then
    [range.start]
  else
    let scale := refine range 700 (coarseScale range)
    let first := firstMultiple range scale.step
    let base := (first / scale.grain).floor * scale.grain
    ticksFrom scale base (lastMultiple range scale.step) 100 (first - base)

/-- The text of a value on a vertical axis, with more places for smaller values. -/
def valueText (value : Float) : String :=
  let size := value.abs
  if size ≥ 100 then Numeral.fixed 0 value
  else if size ≥ 1 then Numeral.fixed 2 value
  else Numeral.fixed 4 value

/-- The text of a place on the axis of mining times. -/
def miningText (logScale : Bool) (place : Float) : String :=
  if logScale then valueText (Float.pow 10 place) else valueText place

def roundText (value : Float) : String :=
  Numeral.fixed 0 value

end DeltaStudy.Chart
