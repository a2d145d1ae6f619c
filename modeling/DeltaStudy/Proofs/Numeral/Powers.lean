import DeltaStudy.Numeral.Power

/-!
# Laws of powers

How powers of two and of ten multiply and compare, and where the leading bit of a
multiple of a power of two is.
-/

namespace DeltaStudy.Numeral

theorem twoTo_pos (exponent : Nat) : 0 < twoTo exponent :=
  Nat.pow_pos (by decide)

theorem tenTo_pos (exponent : Nat) : 0 < tenTo exponent :=
  Nat.pow_pos (by decide)

theorem twoTo_add (left right : Nat) : twoTo (left + right) = twoTo left * twoTo right :=
  Nat.pow_add 2 left right

theorem tenTo_add (left right : Nat) : tenTo (left + right) = tenTo left * tenTo right :=
  Nat.pow_add 10 left right

theorem twoTo_succ (exponent : Nat) : twoTo (exponent + 1) = 2 * twoTo exponent := by
  rw [twoTo_add, Nat.mul_comm]

theorem twoTo_le_twoTo {small large : Nat} (ordered : small ≤ large) :
    twoTo small ≤ twoTo large :=
  Nat.pow_le_pow_right (by decide) ordered

theorem tenTo_le_tenTo {small large : Nat} (ordered : small ≤ large) :
    tenTo small ≤ tenTo large :=
  Nat.pow_le_pow_right (by decide) ordered

/-- A number whose leading bit is at a place is between two powers of two. -/
theorem log2_eq_iff {number place : Nat} (positive : 0 < number) :
    number.log2 = place ↔ twoTo place ≤ number ∧ number < twoTo (place + 1) :=
  Nat.log2_eq_iff (Nat.ne_of_gt positive)

/-- A number is below a power of two if its leading bit is. -/
theorem log2_lt_iff {number place : Nat} (positive : 0 < number) :
    number.log2 < place ↔ number < twoTo place :=
  Nat.log2_lt (Nat.ne_of_gt positive)

/-- Shifting a number moves its leading bit. -/
theorem log2_mul_twoTo {number : Nat} (positive : 0 < number) (places : Nat) :
    (number * twoTo places).log2 = number.log2 + places := by
  obtain ⟨lower, upper⟩ := (log2_eq_iff positive).mp rfl
  refine (log2_eq_iff (Nat.mul_pos positive (twoTo_pos places))).mpr ⟨?_, ?_⟩
  · rw [twoTo_add]
    exact Nat.mul_le_mul_right _ lower
  · rw [Nat.add_right_comm, twoTo_add]
    exact Nat.mul_lt_mul_of_pos_right upper (twoTo_pos places)

end DeltaStudy.Numeral
