import DeltaStudy.Numeral.Power

/-!
# Exact values of doubles

A finite double is a whole number of *least steps*, one step being `2^-1074`.
This module is the only place that knows how the 64 bits of a double spell that
number, and how an exact quotient is rounded to the nearest double. Everything
else about decimal text is stated on the number of steps.

No claim is made here about the arithmetic operations of `Float`.
-/

namespace DeltaStudy.Numeral

/-- The number of least steps in one. -/
def stepsPerUnit : Nat := twoTo 1074

/-- The first number of steps that is too large for a finite double. -/
def overflowSteps : Nat := twoTo 2098

/-- What the bits of a double say once the sign is set aside. -/
inductive Size where
  /-- A number, counted in least steps. -/
  | finite (steps : Nat)
  /-- Larger than every number. -/
  | infinite
  /-- Not a number. -/
  | undefined
deriving DecidableEq, Repr

/-- The sign bit, which zeros and infinities have too. -/
def isNegative (value : Float) : Bool :=
  value.toBits >>> 63 == 1

/-- The size of a double. The exponent field 0 holds the steps themselves; the
field `e` holds a significand of 53 bits counted in `2^(e-1)` steps. -/
def size (value : Float) : Size :=
  let bits := value.toBits.toNat % twoTo 63
  let field := bits / twoTo 52
  let fraction := bits % twoTo 52
  if field = 2047 then
    if fraction = 0 then .infinite else .undefined
  else if field = 0 then
    .finite fraction
  else
    .finite ((twoTo 52 + fraction) * twoTo (field - 1))

/-- The distance, in steps, from a double to the next larger one. -/
def gap (steps : Nat) : Nat :=
  twoTo (steps.log2 - 52)

/-- The double of a given sign and number of steps. The number has to be a
multiple of its `gap`; one that is too large gives an infinity. -/
def ofSteps (negative : Bool) (steps : Nat) : Float :=
  let sign := if negative then twoTo 63 else 0
  if overflowSteps ≤ steps then
    Float.ofBits (UInt64.ofNat (sign + 2047 * twoTo 52))
  else
    let shift := steps.log2 - 52
    Float.ofBits (UInt64.ofNat (sign + shift * twoTo 52 + steps / twoTo shift))

/-- The whole number nearest to a quotient; a half goes to the even neighbour. -/
def roundHalfEven (numerator denominator : Nat) : Nat :=
  let below := numerator / denominator
  let excess := 2 * (numerator % denominator)
  if excess < denominator then below
  else if denominator < excess then below + 1
  else below + below % 2

/-- The number of steps nearest to a quotient among the numbers of steps that
53 significant bits can hold. -/
def nearestSteps (numerator denominator : Nat) : Nat :=
  let scaled := numerator * stepsPerUnit
  let grain := gap (scaled / denominator)
  roundHalfEven scaled (denominator * grain) * grain

/-- The double nearest to a quotient, infinite when every finite one is too small. -/
def ofQuotient (negative : Bool) (numerator denominator : Nat) : Float :=
  ofSteps negative (nearestSteps numerator denominator)

/-- Whether a double is a whole number. -/
def isWhole (value : Float) : Bool :=
  match size value with
  | .finite steps => steps % stepsPerUnit == 0
  | _ => false

end DeltaStudy.Numeral
