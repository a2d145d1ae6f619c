/-!
# Decimal digits

Whole numbers as strings of decimal digits, in both directions.
-/

namespace DeltaStudy.Numeral

/-- The value of a decimal digit, and nothing for any other character. -/
def digitValue? (character : Char) : Option Nat :=
  if '0' ≤ character ∧ character ≤ '9' then
    some (character.toNat - '0'.toNat)
  else
    none

/-- Whether a character is one of the ten decimal digits. -/
def isDigit (character : Char) : Bool :=
  (digitValue? character).isSome

/-- The number that a string of digits denotes, reading any other character as 0. -/
def valueOfDigits (digits : List Char) : Nat :=
  digits.foldl (fun value digit => 10 * value + (digitValue? digit).getD 0) 0

/-- The digits of a whole number without leading zeros; zero has the one digit 0. -/
def digitsOf (value : Nat) : List Char :=
  Nat.toDigits 10 value

/-- The digits of a whole number, with zeros in front up to a given count. -/
def paddedDigits (count value : Nat) : List Char :=
  let digits := digitsOf value
  List.replicate (count - digits.length) '0' ++ digits

/-- The decimal text of a whole number. -/
def decimalText (value : Nat) : String :=
  String.ofList (digitsOf value)

/-- The decimal text of an integer, with a minus sign in front of a negative one. -/
def signedText (value : Int) : String :=
  if value < 0 then "-" ++ decimalText value.natAbs else decimalText value.natAbs

end DeltaStudy.Numeral
