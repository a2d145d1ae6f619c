import DeltaStudy.Numeral.Binary
import DeltaStudy.Numeral.Digits

/-!
# Number literals

A float literal is an optional sign followed by a decimal with at least one
digit, an optional point and an optional exponent, or by one of the words
`inf`, `infinity` and `nan` in any case. It denotes the double nearest to its
exact value. A word literal is an optional plus sign and decimal digits.

Neither literal has blanks or separators in it; trimming is the caller's part.
-/

namespace DeltaStudy.Numeral

/-- What a float literal denotes before it is rounded to a double. -/
inductive Literal where
  /-- The digits times a power of ten. -/
  | decimal (negative : Bool) (digits : List Char) (exponent : Int)
  | infinity (negative : Bool)
  | notANumber
deriving DecidableEq, Repr

/-- Split off a sign; no sign reads as plus. -/
def splitSign : List Char → Bool × List Char
  | '-' :: rest => (true, rest)
  | '+' :: rest => (false, rest)
  | text => (false, text)

/-- The exponent part of a decimal, which is either absent or a marked whole number. -/
def readExponent? : List Char → Option Int
  | [] => some 0
  | mark :: rest =>
    if mark == 'e' || mark == 'E' then
      let (negative, digits) := splitSign rest
      if digits.isEmpty || !digits.all isDigit then
        none
      else
        let value : Int := valueOfDigits digits
        some (if negative then -value else value)
    else
      none

/-- Split off the fraction after a point; no point reads as an empty fraction. -/
def splitFraction : List Char → List Char × List Char
  | '.' :: rest => (rest.takeWhile isDigit, rest.dropWhile isDigit)
  | text => ([], text)

/-- Read the unsigned decimal that a float literal may be. -/
def readDecimal? (negative : Bool) (text : List Char) : Option Literal :=
  let whole := text.takeWhile isDigit
  let (fraction, rest) := splitFraction (text.dropWhile isDigit)
  if whole.isEmpty && fraction.isEmpty then
    none
  else
    (readExponent? rest).map fun exponent =>
      .decimal negative (whole ++ fraction) (exponent - fraction.length)

/-- Read a whole text as a float literal. -/
def readLiteral? (text : List Char) : Option Literal :=
  let (negative, rest) := splitSign text
  match readDecimal? negative rest with
  | some literal => some literal
  | none =>
    let word := String.ofList (rest.map Char.toLower)
    if word = "inf" ∨ word = "infinity" then some (.infinity negative)
    else if word = "nan" then some .notANumber
    else none

/-- The double nearest to digits times a power of ten. Beyond `10^310` every
value is infinite and below `10^-330` every value is zero, so powers of ten
outside that range are never formed. -/
def decimalValue (negative : Bool) (digits : List Char) (exponent : Int) : Float :=
  let significant := digits.dropWhile (· == '0')
  let position : Int := significant.length + exponent
  if significant.isEmpty || position < -330 then
    ofSteps negative 0
  else if 310 < position then
    ofSteps negative overflowSteps
  else
    ofQuotient negative (valueOfDigits significant * tenTo exponent.toNat) (tenTo (-exponent).toNat)

/-- The double that a literal denotes. -/
def Literal.value : Literal → Float
  | .decimal negative digits exponent => decimalValue negative digits exponent
  | .infinity negative => ofSteps negative overflowSteps
  | .notANumber => Float.ofBits 0x7ff8000000000000

/-- The double that a text denotes, if the text is a float literal. -/
def readFloat? (text : String) : Option Float :=
  (readLiteral? text.toList).map Literal.value

/-- Read a whole text as a word literal below a limit. -/
def readNat? (limit : Nat) (text : String) : Option Nat :=
  let digits := match text.toList with
    | '+' :: rest => rest
    | all => all
  if digits.isEmpty || !digits.all isDigit then
    none
  else
    let value := valueOfDigits digits
    if value < limit then some value else none

/-- Read a whole text as an unsigned word of 64 bits. -/
def readWord? (text : String) : Option UInt64 :=
  (readNat? (twoTo 64) text).map UInt64.ofNat

end DeltaStudy.Numeral
