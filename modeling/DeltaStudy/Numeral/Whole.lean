import DeltaStudy.Numeral.Binary

/-!
# Whole parts of doubles

Rounding down and up to integers, exactly. What is no number counts as zero, and
an infinity counts as a number beyond every pixel.
-/

namespace DeltaStudy.Numeral

/-- A bound beyond which no whole part is told apart. -/
def wholeBound : Int := Int.ofNat (twoTo 31)

/-- The whole part of a size on either side of zero: cut off, or the next one if
anything was cut off. -/
def wholePart (steps : Nat) (outward : Bool) : Nat :=
  steps / stepsPerUnit + (if outward && steps % stepsPerUnit != 0 then 1 else 0)

/-- The integer that a double rounds to in a direction. -/
def roundToward (up : Bool) (value : Float) : Int :=
  let negative := isNegative value
  let magnitude : Int := match size value with
    | .undefined => 0
    | .infinite => wholeBound
    | .finite steps => wholePart steps (negative != up)
  if negative then -magnitude else magnitude

/-- The largest integer that is not above a double. -/
def floorInt (value : Float) : Int :=
  roundToward false value

/-- The smallest integer that is not below a double. -/
def ceilInt (value : Float) : Int :=
  roundToward true value

end DeltaStudy.Numeral
