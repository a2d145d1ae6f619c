import DeltaStudy.Proofs.Numeral.Doubles

/-!
# Positive doubles

A finite double is positive exactly if it unpacks to a positive significand. Such
doubles are equal in the sense of `Float` exactly if they are the same, and a product
of one with a number that is not negative is a number again, which may have
overflowed but has no sign.

How a product is rounded is not said here.
-/

namespace DeltaStudy.Numeral

open Float.Model Float.Model.UnpackedFloat

/-- Unpacked numbers without a sign. -/
inductive Upright : UnpackedFloat → Prop where
  | infinity : Upright (.infinity .positive)
  | zero : Upright (.zero .positive)
  | finite {mantissa exponent positive} : Upright (.finite .positive mantissa exponent positive)

/-- Fields without a sign that do not spell what is not a number spell a number
without a sign. -/
theorem upright_unpack_packComponents {exponent : BitVec 11} {mantissa : BitVec 52}
    (number : exponent = -1#11 → mantissa = 0#52) :
    Upright (UnpackedFloat.unpack Format.binary64
      (packComponents Format.binary64 .positive exponent mantissa)) := by
  unfold UnpackedFloat.unpack
  simp only [unpackSign_packComponents, unpackExponent_packComponents,
    unpackMantissa_packComponents, Sign.ofBitVec_toBitVec]
  split
  · rename_i top
    rw [if_pos (number top)]
    exact .infinity
  · split
    · split
      · exact .zero
      · exact .finite
    · exact .finite

/-- A number without a sign has none after it has been packed. -/
theorem upright_unpack_pack {number : UnpackedFloat} (upright : Upright number) :
    Upright (Float.Model.pack number).unpack := by
  show Upright (UnpackedFloat.unpack Format.binary64 (UnpackedFloat.pack Format.binary64 number))
  cases upright with
  | infinity => exact upright_unpack_packComponents fun _ => rfl
  | zero => exact upright_unpack_packComponents fun _ => rfl
  | @finite mantissa exponent positive =>
    simp only [UnpackedFloat.pack]
    split
    · exact upright_unpack_packComponents fun _ => rfl
    · rename_i fits
      split
      · refine upright_unpack_packComponents fun top => ?_
        have ones := congrArg BitVec.toNat top
        rw [BitVec.toNat_ofNat] at ones
        have last : (-1#11).toNat = 2047 := rfl
        omega
      · refine upright_unpack_packComponents fun top => ?_
        cases top

theorem upright_roundWithAccuracy (mantissa : Nat) (exponent : Int) (accuracy : Accuracy) :
    Upright (roundWithAccuracy Format.binary64 .positive mantissa exponent accuracy) := by
  unfold roundWithAccuracy
  simp only
  split
  · exact .zero
  · exact .finite

theorem upright_toFloat (word : UInt64) : Upright word.toFloat.toModel.unpack := by
  refine upright_unpack_pack ?_
  show Upright (UnpackedFloat.normalize Format.binary64 (word.toNat : Int) 0 .positive)
  unfold UnpackedFloat.normalize
  split
  · rename_i negative
    exact absurd (Int.compare_eq_lt.mp negative) (Int.not_lt.mpr (Int.natCast_nonneg _))
  · exact .zero
  · exact upright_roundWithAccuracy _ _ _

/-- A product of a positive number and a number without a sign has no sign. -/
theorem upright_mul {mantissa : Nat} {exponent : Int} {positive : 0 < mantissa}
    {right : UnpackedFloat} (upright : Upright right) :
    Upright (UnpackedFloat.mul Format.binary64 (.finite .positive mantissa exponent positive)
      right) := by
  cases upright with
  | infinity => exact .infinity
  | zero => exact .zero
  | finite => exact upright_roundWithAccuracy _ _ _

/-! ## Comparing -/

theorem lt_iff_compare (left right : Float) :
    left < right ↔ left.toModel.unpack.compare right.toModel.unpack = some .lt := by
  show decide (left.toModel < right.toModel) = true ↔ _
  rw [decide_eq_true_iff]
  show (left.toModel.unpack.compare right.toModel.unpack == some .lt) = true ↔ _
  rw [beq_iff_eq]

theorem le_iff_compare (left right : Float) :
    left ≤ right ↔ (left.toModel.unpack.compare right.toModel.unpack).any (·.isLE) = true := by
  show decide (left.toModel ≤ right.toModel) = true ↔ _
  rw [decide_eq_true_iff]
  exact Iff.rfl

theorem beq_iff_compare (left right : Float) :
    (left == right) = true
      ↔ left.toModel.unpack.compare right.toModel.unpack = some .eq := by
  show (left.toModel.unpack.compare right.toModel.unpack == some .eq) = true ↔ _
  rw [beq_iff_eq]

theorem unpack_zero : (0 : Float).toModel.unpack = .zero .positive := by
  have fieldZero : field 0 = 0 := by decide +kernel
  have fractionZero : fraction 0 = 0 := by decide +kernel
  have upright : isNegative 0 = false := by decide +kernel
  rw [unpack_eq, fieldZero, fractionZero, upright]
  rfl

/-- What lies between zero and a finite double is finite. -/
theorem isFinite_of_le {value limit : Float} (above : 0 < value) (ordered : value ≤ limit)
    (finite : limit.isFinite = true) : value.isFinite = true := by
  have bounded : limit.toModel.unpack.isFinite = true := finite
  show value.toModel.unpack.isFinite = true
  rw [lt_iff_compare, unpack_zero] at above
  rw [le_iff_compare] at ordered
  cases unpacked : value.toModel.unpack with
  | notANumber => simp [unpacked, UnpackedFloat.compare] at above
  | infinity sign =>
    cases sign with
    | negative => simp [unpacked, UnpackedFloat.compare] at above
    | positive =>
      rw [unpacked] at ordered
      cases other : limit.toModel.unpack with
      | notANumber => simp [other, UnpackedFloat.isFinite] at bounded
      | infinity sign => simp [other, UnpackedFloat.isFinite] at bounded
      | zero sign => simp [other, UnpackedFloat.compare] at ordered
      | finite sign mantissa exponent positive => simp [other, UnpackedFloat.compare] at ordered
  | zero sign => rfl
  | finite sign mantissa exponent positive => rfl

/-- A finite positive double is one that unpacks to a significand without a sign. -/
def Positive (value : Float) : Prop :=
  ∃ mantissa exponent positive,
    value.toModel.unpack = .finite .positive mantissa exponent positive

/-- A double is finite and larger than zero if it is positive. -/
theorem positive_iff (value : Float) : Positive value ↔ value.isFinite = true ∧ 0 < value := by
  have finite : value.isFinite = value.toModel.unpack.isFinite := rfl
  rw [Positive, finite, lt_iff_compare, unpack_zero]
  cases value.toModel.unpack with
  | notANumber => simp [UnpackedFloat.isFinite]
  | infinity sign => simp [UnpackedFloat.isFinite]
  | zero sign => simp [UnpackedFloat.compare]
  | finite sign mantissa exponent positive =>
    cases sign with
    | negative => simp [UnpackedFloat.compare]
    | positive => simp [UnpackedFloat.compare, UnpackedFloat.isFinite, positive]

/-- Positive doubles are equal if they are the same. -/
theorem Positive.beq_iff {left right : Float} (positive : Positive left) :
    (left == right) = true ↔ left = right := by
  obtain ⟨mantissa, exponent, nonzero, unpacked⟩ := positive
  rw [beq_iff_compare]
  constructor
  · intro equal
    apply eq_of_unpack
    rw [unpacked] at equal ⊢
    cases other : right.toModel.unpack with
    | notANumber => simp [other, UnpackedFloat.compare] at equal
    | infinity sign => cases sign <;> simp [other, UnpackedFloat.compare] at equal
    | zero sign => simp [other, UnpackedFloat.compare] at equal
    | finite sign mantissa' exponent' nonzero' =>
      cases sign with
      | negative => simp [other, UnpackedFloat.compare] at equal
      | positive =>
        simp only [other, UnpackedFloat.compare, Option.some.injEq, Ordering.then_eq_eq,
          Int.compare_eq_eq, Nat.compare_eq_eq] at equal
        obtain ⟨rfl, rfl⟩ := equal
        rfl
  · rintro rfl
    simp [unpacked, UnpackedFloat.compare]

/-- The size of a positive double is a number of steps, and it has no sign. -/
theorem Positive.size_eq {value : Float} (positive : Positive value) :
    isNegative value = false ∧ ∃ steps, size value = .finite steps := by
  obtain ⟨mantissa, exponent, nonzero, unpacked⟩ := positive
  rw [unpack_eq, decode] at unpacked
  rw [Numeral.size_eq]
  have upright {sign : Bool} (same : signOf sign = .positive) : sign = false := by
    cases sign with
    | true => cases same
    | false => rfl
  split at unpacked
  · split at unpacked <;> cases unpacked
  · rename_i bounded
    rw [if_neg bounded]
    split at unpacked
    · rename_i low
      rw [if_pos low]
      split at unpacked
      · cases unpacked
      · injection unpacked with sameSign
        exact ⟨upright sameSign, _, rfl⟩
    · rename_i normal
      rw [if_neg normal]
      injection unpacked with sameSign
      exact ⟨upright sameSign, _, rfl⟩

/-- A number without a sign is below a positive one if it is finite and not above it. -/
theorem Positive.lt_iff {value limit : Float} (positive : Positive limit)
    (upright : Upright value.toModel.unpack) :
    value < limit ↔ value.isFinite = true ∧ ¬ limit ≤ value := by
  obtain ⟨mantissa, exponent, nonzero, unpacked⟩ := positive
  have finite : value.isFinite = value.toModel.unpack.isFinite := rfl
  rw [lt_iff_compare, le_iff_compare, finite, unpacked]
  generalize value.toModel.unpack = number at upright
  cases upright with
  | infinity => simp [UnpackedFloat.compare, UnpackedFloat.isFinite]
  | zero => simp [UnpackedFloat.compare, UnpackedFloat.isFinite]
  | @finite mantissa' exponent' nonzero' =>
    simp only [UnpackedFloat.compare, UnpackedFloat.isFinite, Option.any_some, true_and,
      Option.some.injEq]
    rw [← Int.compare_swap exponent, ← Nat.compare_swap mantissa, ← Ordering.swap_then]
    cases (compare exponent exponent').then (compare mantissa mantissa') with
    | lt => decide
    | eq => decide
    | gt => decide

/-- The product of a positive double and a word has no sign. -/
theorem Positive.upright_mul {value : Float} (positive : Positive value) (word : UInt64) :
    Upright (value * word.toFloat).toModel.unpack := by
  obtain ⟨mantissa, exponent, nonzero, unpacked⟩ := positive
  refine upright_unpack_pack ?_
  rw [unpacked]
  exact Numeral.upright_mul (upright_toFloat word)

end DeltaStudy.Numeral
