import DeltaStudy.Numeral.Binary
import DeltaStudy.Numeral.Digits

/-!
# Decimals with a fixed number of places

The exact value of a double is rounded to a given number of decimal places, a
half going to the even neighbour. The sign stays in front of a result that has
become zero.
-/

namespace DeltaStudy.Numeral

/-- The digits of a number of steps with a fixed number of places. -/
def fixedDigits (places steps : Nat) : List Char :=
  let scaled := roundHalfEven (steps * tenTo places) stepsPerUnit
  let whole := digitsOf (scaled / tenTo places)
  if places = 0 then whole
  else whole ++ '.' :: paddedDigits places (scaled % tenTo places)

/-- The text of a double with a fixed number of places. -/
def fixed (places : Nat) (value : Float) : String :=
  let sign := if isNegative value then ['-'] else []
  match size value with
  | .undefined => "NaN"
  | .infinite => String.ofList (sign ++ ['i', 'n', 'f'])
  | .finite steps => String.ofList (sign ++ fixedDigits places steps)

end DeltaStudy.Numeral
