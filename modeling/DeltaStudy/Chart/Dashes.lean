import DeltaStudy.Chart.Axes

/-!
# Dashed lines

A reference is drawn as dashes along the whole width of the chart. Dash and gap
are fixed shares of the width, and the last dash ends with the axis.

The dashes are drawn one at a time by `nextDash?`. On an axis whose width is large
against the distance of neighbouring doubles they reach the end after about
fifty dashes. On an axis so narrow that a dash is lost in rounding they never do,
and a chart with such a line is never finished.
-/

namespace DeltaStudy.Chart

/-- The smallest positive double with full precision. -/
def leastLength : Float :=
  Float.ofBits 0x0010000000000000

/-- The length of a dash on an axis of a given width. -/
def dashLength (width : Float) : Float :=
  greater (width * 0.012) leastLength

/-- The length of the gap after a dash. -/
def gapLength (width : Float) : Float :=
  width * 0.008

/-- A dash from one place on an axis to another one. -/
structure Dash where
  /-- Where the dash begins. -/
  start : Float
  /-- Where the dash ends. -/
  stop : Float
deriving DecidableEq

/-- The dash that begins at a place, and the place where the next one begins;
nothing at the end of the axis. -/
def nextDash? (axis : Range) (start : Float) : Option (Dash × Float) :=
  if start < axis.stop then
    let stop := lesser (start + dashLength axis.width) axis.stop
    some (⟨start, stop⟩, stop + gapLength axis.width)
  else
    none

/-- How something is made one item after another: the item for a state, and the
state for the next one; nothing at the end. -/
abbrev Stepper (State Item : Type) := State → Option (Item × State)

/-- What is made from a state on, if it comes to an end. -/
def Stepper.unroll {State Item : Type} (next? : Stepper State Item) (state : State) :
    Option (List Item) :=
  match next? state with
  | none => some []
  | some (item, next) => do
    let rest ← next? |>.unroll next
    return item :: rest
partial_fixpoint

/-- The dashes along an axis, if they come to an end. -/
def dashes? (axis : Range) : Option (List Dash) :=
  Stepper.unroll (nextDash? axis) axis.start

/-- The dashes along an axis. Looking for dashes that never end never ends
either, so nothing is drawn with what stands here for them. -/
def dashes (axis : Range) : List Dash :=
  (dashes? axis).getD []

end DeltaStudy.Chart
