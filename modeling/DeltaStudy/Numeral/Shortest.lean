import DeltaStudy.Numeral.Binary
import DeltaStudy.Numeral.Digits

/-!
# The shortest decimal that reads back

The text of a double is the decimal with the fewest digits among those that are
nearer to it than to any other double. Of two such decimals the nearer one is
taken, and of two equally near ones the larger. The text is always positional:
no exponent is ever written, so a text may be long but never ambiguous.
-/

namespace DeltaStudy.Numeral

/-- Whether `digits · 10^exponent` rounds to the double of this many steps. The
ends of the interval of such decimals belong to it when the significand is even. -/
def readsBack (steps digits : Nat) (exponent : Int) : Bool :=
  let decimal := 2 * digits * stepsPerUnit * tenTo exponent.toNat
  let scale := tenTo (-exponent).toNat
  let lower := (2 * steps - gap (steps - 1)) * scale
  let upper := (2 * steps + gap steps) * scale
  if steps / gap steps % 2 = 0 then
    decide (lower ≤ decimal) && decide (decimal ≤ upper)
  else
    decide (lower < decimal) && decide (decimal < upper)

/-- The decimal on the grid of spacing `10^exponent` that reads back and is
nearest, if any. Only the two neighbours on the grid can be nearest. -/
def onGrid? (steps : Nat) (exponent : Int) : Option Nat :=
  let numerator := steps * tenTo (-exponent).toNat
  let denominator := stepsPerUnit * tenTo exponent.toNat
  let below := numerator / denominator
  let upperNearer := decide (denominator ≤ 2 * (numerator % denominator))
  match readsBack steps below exponent, readsBack steps (below + 1) exponent with
  | true, true => some (if upperNearer then below + 1 else below)
  | true, false => some below
  | false, true => some (below + 1)
  | false, false => none

/-- Try ever finer grids until one holds a decimal that reads back. -/
def searchGrids (steps : Nat) : Nat → Int → Nat × Int
  | 0, exponent => (steps, exponent)
  | fuel + 1, exponent =>
    match onGrid? steps exponent with
    | some digits => (digits, exponent)
    | none => searchGrids steps fuel (exponent - 1)

/-- A power of ten that is larger than a given number of steps, found from the
number of its bits with `30103 / 100000` for the logarithm of two. -/
def powerAbove (steps : Nat) : Int :=
  (((steps.log2 : Int) + 1 - 1074) * 30103) / 100000 + 1

/-- The shortest decimal of a positive number of steps, as digits and a power of
ten. Seventeen digits always suffice; the fuel leaves room for the estimate. -/
def shortestDecimal (steps : Nat) : Nat × Int :=
  searchGrids steps 24 (powerAbove steps)

/-- Write `digits · 10^exponent` positionally. -/
def positional (digits : Nat) (exponent : Int) : List Char :=
  let written := digitsOf digits
  if 0 ≤ exponent then
    written ++ List.replicate exponent.toNat '0'
  else
    let places := (-exponent).toNat
    let padded := List.replicate (places + 1 - written.length) '0' ++ written
    padded.take (padded.length - places) ++ '.' :: padded.drop (padded.length - places)

/-- The shortest text of a double: digits and a point, `inf` or `NaN`, with a
minus sign in front of whatever is negative and a number. -/
def shortest (value : Float) : String :=
  let sign := if isNegative value then ['-'] else []
  match size value with
  | .undefined => "NaN"
  | .infinite => String.ofList (sign ++ ['i', 'n', 'f'])
  | .finite 0 => String.ofList (sign ++ ['0'])
  | .finite steps =>
    let (digits, exponent) := shortestDecimal steps
    String.ofList (sign ++ positional digits exponent)

end DeltaStudy.Numeral
