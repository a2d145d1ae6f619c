import DeltaStudy.Numeral.Digits
import DeltaStudy.Proofs.Numeral.Powers

/-!
# Digits and their value

The digits of a whole number have that number as their value and do not start with
a zero unless it is zero. Every zero behind them counts for a factor of ten.
-/

namespace DeltaStudy.Numeral

/-- The ten decimal digits are those of ASCII. -/
theorem isDigit_eq (character : Char) : isDigit character = character.isDigit := by
  have bounds : ('0' ≤ character ∧ character ≤ '9') ↔ character.isDigit = true := by
    simp only [Char.le_def, Char.isDigit, Bool.and_eq_true, decide_eq_true_eq]
  simp only [isDigit, digitValue?, bounds]
  cases character.isDigit with
  | true => rfl
  | false => rfl

/-- The value of a decimal digit is how far it is from zero. -/
theorem digitValue?_of_isDigit {character : Char} (digit : isDigit character = true) :
    digitValue? character = some (character.toNat - '0'.toNat) := by
  rw [isDigit, digitValue?] at digit
  rw [digitValue?]
  split
  · rfl
  · rename_i outside
    rw [if_neg outside] at digit
    cases digit

theorem isDigit_point : isDigit '.' = false := by
  decide

/-- The value of digits is what the standard library reads. -/
theorem valueOfDigits_eq {digits : List Char} (all : ∀ digit ∈ digits, isDigit digit = true) :
    valueOfDigits digits = Nat.ofDigitChars 10 digits 0 := by
  have folded (initial : Nat) :
      digits.foldl (fun value digit => 10 * value + (digitValue? digit).getD 0) initial
        = Nat.ofDigitChars 10 digits initial := by
    induction digits generalizing initial with
    | nil => exact Nat.ofDigitChars_nil.symm
    | cons digit rest inductionHypothesis =>
      rw [List.foldl_cons, Nat.ofDigitChars_cons, digitValue?_of_isDigit (all digit (by simp))]
      exact inductionHypothesis (fun other member => all other (by simp [member])) _
  exact folded 0

theorem isDigit_of_mem_digitsOf {value : Nat} {digit : Char} (member : digit ∈ digitsOf value) :
    isDigit digit = true := by
  rw [isDigit_eq]
  exact Nat.isDigit_of_mem_toDigits (by decide) (by decide) member

theorem isDigit_of_mem_zeros {count : Nat} {digit : Char}
    (member : digit ∈ List.replicate count '0') : isDigit digit = true := by
  rw [List.eq_of_mem_replicate member]
  decide

/-- Digits with zeros in front of them are digits. -/
theorem isDigit_of_mem_padded {zeros value : Nat} {digit : Char}
    (member : digit ∈ List.replicate zeros '0' ++ digitsOf value) : isDigit digit = true := by
  rcases List.mem_append.mp member with zero | written
  · exact isDigit_of_mem_zeros zero
  · exact isDigit_of_mem_digitsOf written

/-- Digits with zeros behind them are digits. -/
theorem isDigit_of_mem_scaled {zeros value : Nat} {digit : Char}
    (member : digit ∈ digitsOf value ++ List.replicate zeros '0') : isDigit digit = true := by
  rcases List.mem_append.mp member with written | zero
  · exact isDigit_of_mem_digitsOf written
  · exact isDigit_of_mem_zeros zero

theorem digitsOf_ne_nil (value : Nat) : digitsOf value ≠ [] :=
  Nat.toDigits_ne_nil

/-- A number has no more than so many digits if it is below that power of ten. -/
theorem length_digitsOf_le_iff {value count : Nat} (positive : 0 < count) :
    (digitsOf value).length ≤ count ↔ value < tenTo count :=
  Nat.length_toDigits_le_iff (by decide) positive

/-- A number is below the power of ten that its digits count. -/
theorem lt_tenTo_length (value : Nat) : value < tenTo (digitsOf value).length :=
  (length_digitsOf_le_iff (List.length_pos_iff.mpr (digitsOf_ne_nil value))).mp (Nat.le_refl _)

/-- A number that is not zero is not below the power of ten before. -/
theorem tenTo_length_pred_le {value : Nat} (positive : 0 < value) :
    tenTo ((digitsOf value).length - 1) ≤ value := by
  rcases Nat.eq_zero_or_pos ((digitsOf value).length - 1) with single | more
  · rw [single]
    exact positive
  · apply Nat.not_lt.mp
    intro below
    have short := (length_digitsOf_le_iff more).mpr below
    omega

/-- The digits of a number have it as their value. -/
theorem valueOfDigits_digitsOf (value : Nat) : valueOfDigits (digitsOf value) = value := by
  rw [valueOfDigits_eq fun _ => isDigit_of_mem_digitsOf]
  exact Nat.ofDigitChars_ten_toDigits

/-- Every zero behind digits counts for a factor of ten. -/
theorem valueOfDigits_zeros_behind (value count : Nat) :
    valueOfDigits (digitsOf value ++ List.replicate count '0') = value * tenTo count := by
  rw [valueOfDigits_eq fun _ => isDigit_of_mem_scaled, Nat.ofDigitChars_append, Nat.ofDigitChars_replicate_zero,
    digitsOf, Nat.ofDigitChars_ten_toDigits, Nat.mul_comm]
  rfl

/-- The first digit of a number that is not zero is not a zero. -/
theorem dropWhile_zero_digitsOf {value : Nat} (positive : 0 < value) (rest : List Char) :
    (digitsOf value ++ rest).dropWhile (· == '0') = digitsOf value ++ rest := by
  induction value using Nat.strongRecOn generalizing rest with
  | ind value inductionHypothesis =>
    rcases Nat.lt_or_ge value 10 with single | more
    · rw [digitsOf, Nat.toDigits_of_lt_base single, List.singleton_append]
      apply List.dropWhile_cons_of_neg
      simpa using Nat.ne_of_gt positive
    · have written : digitsOf value = digitsOf (value / 10) ++ [Nat.digitChar (value % 10)] :=
        Nat.toDigits_of_base_le (by decide) more
      rw [written, List.append_assoc]
      exact inductionHypothesis (value / 10) (by omega) (by omega) _

end DeltaStudy.Numeral
