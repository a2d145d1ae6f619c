import DeltaStudy.Failure

/-!
# Averages

Sums and means of doubles, added from the left, and the trailing moving average.
The sum of nothing is negative zero, the one double that changes no other when
it is added. Every window of the moving average is summed afresh, so no error is
carried along a series.
-/

namespace DeltaStudy.Trend

/-- A count as a double. -/
def countValue (count : Nat) : Float :=
  (UInt64.ofNat count).toFloat

/-- The sum from left to right. -/
def sum (values : List Float) : Float :=
  values.foldl (· + ·) (-0.0)

/-- The sum divided by the count. -/
def mean (values : List Float) : Float :=
  sum values / countValue values.length

/-- The values at a position and before it, at most as many as the window holds. -/
def windowAt (values : List Float) (window position : Nat) : List Float :=
  (values.take (position + 1)).drop (position + 1 - window)

/-- At every position the mean of the window that ends there. The first windows
hold fewer values. -/
def movingAverage (values : List Float) (window : Nat) : Except Failure (List Float) :=
  if window = 0 then
    .error .zeroWindow
  else
    .ok ((List.range values.length).map fun position => mean (windowAt values window position))

/-- The value that the difficulty approaches for a Δ/T value, by a given exponential function. -/
def convergenceBy (exponential : Float → Float) (delta : Float) : Float :=
  exponential (-delta)

/-- The value that the difficulty approaches for a Δ/T value. -/
def convergence : Float → Float :=
  convergenceBy Float.exp

end DeltaStudy.Trend
