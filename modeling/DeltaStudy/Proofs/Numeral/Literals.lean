import DeltaStudy.Numeral.Reading
import DeltaStudy.Proofs.Numeral.Digits

/-!
# How positional decimals are read

Digits, a point and digits, or digits alone, are a literal for the digits without
the point, times the power of ten that moves the point back. Its value is the double
nearest to that quotient, unless the first digit is so far from the point that no
finite double is near.
-/

namespace DeltaStudy.Numeral

theorem takeWhile_isDigit {digits : List Char} (all : ∀ digit ∈ digits, isDigit digit = true) :
    digits.takeWhile isDigit = digits := by
  have taken : (digits ++ []).takeWhile isDigit = digits ++ [].takeWhile isDigit :=
    List.takeWhile_append_of_pos all
  simpa using taken

theorem dropWhile_isDigit {digits : List Char} (all : ∀ digit ∈ digits, isDigit digit = true) :
    digits.dropWhile isDigit = [] := by
  have dropped : (digits ++ []).dropWhile isDigit = [].dropWhile isDigit :=
    List.dropWhile_append_of_pos all
  simpa using dropped

/-- Digits alone are a literal for themselves. -/
theorem readDecimal?_whole {whole : List Char} (negative : Bool) (nonempty : whole ≠ [])
    (digits : ∀ digit ∈ whole, isDigit digit = true) :
    readDecimal? negative whole = some (.decimal negative whole 0) := by
  simp [readDecimal?, takeWhile_isDigit digits, dropWhile_isDigit digits, splitFraction,
    readExponent?, nonempty]

/-- Digits with a point between them are a literal for all the digits. -/
theorem readDecimal?_point {whole fraction : List Char} (negative : Bool) (nonempty : whole ≠ [])
    (wholeDigits : ∀ digit ∈ whole, isDigit digit = true)
    (fractionDigits : ∀ digit ∈ fraction, isDigit digit = true) :
    readDecimal? negative (whole ++ '.' :: fraction)
      = some (.decimal negative (whole ++ fraction) (-fraction.length)) := by
  have taken : (whole ++ '.' :: fraction).takeWhile isDigit = whole := by
    rw [List.takeWhile_append_of_pos wholeDigits,
      List.takeWhile_cons_of_neg (by simp [isDigit_point]), List.append_nil]
  have dropped : (whole ++ '.' :: fraction).dropWhile isDigit = '.' :: fraction := by
    rw [List.dropWhile_append_of_pos wholeDigits,
      List.dropWhile_cons_of_neg (by simp [isDigit_point])]
  simp [readDecimal?, taken, dropped, splitFraction, takeWhile_isDigit fractionDigits,
    dropWhile_isDigit fractionDigits, readExponent?, nonempty]

/-- Digits that are all zeros have the value zero. -/
theorem decimalValue_zero {negative : Bool} {digits : List Char} {exponent : Int}
    (dropped : digits.dropWhile (· == '0') = []) :
    decimalValue negative digits exponent = ofSteps negative 0 := by
  simp [decimalValue, dropped]

/-- Digits whose first one is not too far from the point have the value of a quotient. -/
theorem decimalValue_eq {negative : Bool} {digits significant : List Char} {exponent : Int}
    (dropped : digits.dropWhile (· == '0') = significant) (nonempty : significant ≠ [])
    (lower : -330 ≤ significant.length + exponent)
    (upper : significant.length + exponent ≤ 310) :
    decimalValue negative digits exponent
      = ofQuotient negative (valueOfDigits significant * tenTo exponent.toNat)
        (tenTo (-exponent).toNat) := by
  have first : ¬ (significant.isEmpty || decide (significant.length + exponent < -330)) = true := by
    simp [nonempty, lower]
  rw [decimalValue, dropped]
  simp only [if_neg first, if_neg (Int.not_lt.mpr upper)]

end DeltaStudy.Numeral
