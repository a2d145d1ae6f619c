import Mathlib
import DeltaStudy.Numeral.Binary
import DeltaStudy.Proofs.Numeral.Powers

/-!
# Doubles by their fields

A double is a sign, a field for the exponent and a field for the fraction. The
fields determine it, and the sizes of `DeltaStudy.Numeral` and the unpacked numbers
that the arithmetic of `Float` works on are both read off from them. So a double is
also determined by its sign and its number of least steps, and `ofSteps` is the way
back.

Nothing is said here about rounding.
-/

namespace DeltaStudy.Numeral

open Float.Model Float.Model.UnpackedFloat

/-! ## The fields of a pattern of bits -/

/-- The fraction is in the 52 lowest bits. -/
theorem toNat_unpackMantissa (bits : BitVec Format.binary64.numBits) :
    (unpackMantissa bits).toNat = bits.toNat % twoTo 52 := by
  simp [unpackMantissa]

/-- The exponent is in the 11 bits above. -/
theorem toNat_unpackExponent (bits : BitVec Format.binary64.numBits) :
    (unpackExponent bits).toNat = bits.toNat / twoTo 52 % twoTo 11 := by
  simp [unpackExponent, Nat.shiftRight_eq_div_pow]

/-- The sign is in the highest bit. -/
theorem toNat_unpackSign (bits : BitVec Format.binary64.numBits) :
    (unpackSign bits).toNat = bits.toNat / twoTo 63 % 2 := by
  simp [unpackSign, Nat.shiftRight_eq_div_pow]

/-- A significand has one bit in front of its fraction. -/
theorem toNat_implicit (mantissa : BitVec 52) :
    (1#1 ++ mantissa).toNat = twoTo 52 + mantissa.toNat := by
  rw [BitVec.toNat_append, ← Nat.shiftLeft_add_eq_or_of_lt mantissa.isLt]
  simp

/-! ## The fields of a double -/

/-- The bits of a double. -/
def pattern (value : Float) : BitVec Format.binary64.numBits :=
  value.toModel.toBits.toBitVec

/-- The exponent field of a double. -/
def field (value : Float) : Nat :=
  value.toBits.toNat % twoTo 63 / twoTo 52

/-- The fraction field of a double. -/
def fraction (value : Float) : Nat :=
  value.toBits.toNat % twoTo 63 % twoTo 52

/-- The sign that a sign bit stands for. -/
def signOf (negative : Bool) : Sign :=
  if negative then .negative else .positive

theorem field_lt (value : Float) : field value < 2048 := by
  simp only [field, twoTo, Nat.pow_eq, Nat.reducePow]
  omega

theorem fraction_lt (value : Float) : fraction value < twoTo 52 :=
  Nat.mod_lt _ (twoTo_pos 52)

/-- A double is negative if its highest bit is set. -/
theorem isNegative_iff (value : Float) :
    isNegative value = true ↔ value.toBits.toNat / twoTo 63 = 1 := by
  have shifted : (value.toBits >>> 63).toNat = value.toBits.toNat / twoTo 63 := by
    simp [Nat.shiftRight_eq_div_pow]
  simp only [isNegative, beq_iff_eq]
  rw [← shifted]
  exact ⟨fun same => by rw [same]; rfl, fun same => UInt64.toNat_inj.mp same⟩

/-- The bits of a double are its fields side by side. -/
theorem toNat_toBits (value : Float) :
    value.toBits.toNat
      = (if isNegative value then twoTo 63 else 0) + field value * twoTo 52 + fraction value := by
  have bound : value.toBits.toNat < twoTo 64 := value.toBits.toNat_lt
  have signSplit := Nat.div_add_mod value.toBits.toNat (twoTo 63)
  have fieldSplit := Nat.div_add_mod (value.toBits.toNat % twoTo 63) (twoTo 52)
  simp only [field, fraction, isNegative_iff]
  generalize value.toBits.toNat % twoTo 63 = low at *
  simp only [twoTo, Nat.pow_eq, Nat.reducePow] at *
  split
  · omega
  · omega

theorem toNat_unpackExponent_pattern (value : Float) :
    (unpackExponent (pattern value)).toNat = field value := by
  have bound : value.toBits.toNat < twoTo 64 := value.toBits.toNat_lt
  rw [toNat_unpackExponent]
  show value.toBits.toNat / twoTo 52 % twoTo 11 = value.toBits.toNat % twoTo 63 / twoTo 52
  simp only [twoTo, Nat.pow_eq, Nat.reducePow] at *
  omega

theorem toNat_unpackMantissa_pattern (value : Float) :
    (unpackMantissa (pattern value)).toNat = fraction value := by
  rw [toNat_unpackMantissa]
  exact (Nat.mod_mod_of_dvd _ (Nat.pow_dvd_pow 2 (by decide))).symm

/-- The sign that is unpacked from a double is that of its highest bit. -/
theorem ofBitVec_unpackSign_pattern (value : Float) :
    Sign.ofBitVec (unpackSign (pattern value)) = signOf (isNegative value) := by
  have bound : (pattern value).toNat < twoTo 64 := value.toBits.toNat_lt
  have negative : isNegative value = true ↔ (pattern value).toNat / twoTo 63 = 1 :=
    isNegative_iff value
  have clear : unpackSign (pattern value) = 0#1 ↔ (unpackSign (pattern value)).toNat = 0 :=
    BitVec.toNat_inj.symm
  simp only [Sign.ofBitVec, signOf, clear, toNat_unpackSign, negative]
  simp only [twoTo, Nat.pow_eq, Nat.reducePow] at bound ⊢
  split
  · rw [if_neg]
    omega
  · rw [if_pos]
    omega

/-! ## The number that the fields spell -/

/-- What a sign, an exponent field and a fraction field spell. -/
def decode (negative : Bool) (field fraction : Nat) : UnpackedFloat :=
  if field = 2047 then
    if fraction = 0 then .infinity (signOf negative) else .notANumber
  else if field = 0 then
    if nonzero : fraction = 0 then .zero (signOf negative)
    else .finite (signOf negative) fraction (-1074) (Nat.pos_of_ne_zero nonzero)
  else .finite (signOf negative) (twoTo 52 + fraction) (field - 1075)
    (Nat.add_pos_left (twoTo_pos 52) fraction)

/-- A double is what its fields spell. -/
theorem unpack_eq (value : Float) :
    value.toModel.unpack = decode (isNegative value) (field value) (fraction value) := by
  have top : (-1#11).toNat = 2047 := rfl
  show UnpackedFloat.unpack Format.binary64 (pattern value) = _
  unfold UnpackedFloat.unpack decode
  simp only [← BitVec.toNat_inj, toNat_unpackMantissa_pattern, toNat_unpackExponent_pattern,
    ofBitVec_unpackSign_pattern, top, BitVec.toNat_zero]
  split
  · rfl
  · split
    · rename_i bottom
      split
      · rfl
      · congr 1
        rw [bottom]
        rfl
    · congr 1
      rw [toNat_implicit, toNat_unpackMantissa_pattern]

/-- A double is determined by what is unpacked from it. -/
theorem eq_of_unpack {left right : Float} (same : left.toModel.unpack = right.toModel.unpack) :
    left = right := by
  have bits : pattern left = pattern right :=
    (unpack_inj_of_valid left.toModel.valid right.toModel.valid).mp same
  exact Float.toBits_inj.mp (UInt64.toBitVec_inj.mp bits)

/-! ## Sizes -/

theorem twoTo_eq_stepsPerUnit {places : Nat} (same : places = 1074) :
    twoTo places = stepsPerUnit := by
  delta stepsPerUnit
  exact congrArg twoTo same

theorem twoTo_eq_overflowSteps {places : Nat} (same : places = 2098) :
    twoTo places = overflowSteps := by
  delta overflowSteps
  exact congrArg twoTo same

/-- A power of two with a smaller exponent than what is too large is not too large. -/
theorem twoTo_lt_overflowSteps {places : Nat} (small : places < 2098) :
    twoTo places < overflowSteps := by
  -- The exponent stays a name, for its power is not to be computed.
  obtain ⟨limit, same⟩ : ∃ limit, limit = 2098 := ⟨_, rfl⟩
  rw [← twoTo_eq_overflowSteps same]
  exact Nat.pow_lt_pow_right (by decide) (by omega)

theorem overflowSteps_le_twoTo {places : Nat} (large : 2098 ≤ places) :
    overflowSteps ≤ twoTo places := by
  obtain ⟨limit, same⟩ : ∃ limit, limit = 2098 := ⟨_, rfl⟩
  rw [← twoTo_eq_overflowSteps same]
  exact Nat.pow_le_pow_right (by decide) (by omega)

/-- A number of steps that is the size of a double. -/
structure Representable (steps : Nat) : Prop where
  /-- It has no more significant bits than there is room for. -/
  gap_dvd : gap steps ∣ steps
  /-- It is not too large. -/
  lt_overflow : steps < overflowSteps

/-- The size of a double by its fields. -/
theorem size_eq (value : Float) :
    size value =
      if field value = 2047 then if fraction value = 0 then .infinite else .undefined
      else if field value = 0 then .finite (fraction value)
      else .finite ((twoTo 52 + fraction value) * twoTo (field value - 1)) :=
  rfl

/-- The size of a finite double is a number of steps. -/
theorem exists_size_of_isFinite {value : Float} (finite : value.isFinite = true) :
    ∃ steps, size value = .finite steps := by
  have unpacked : value.toModel.unpack.isFinite = true := finite
  rw [unpack_eq, decode] at unpacked
  rw [size_eq]
  split at unpacked
  case isTrue => split at unpacked <;> cases unpacked
  case isFalse bounded =>
    rw [if_neg bounded]
    split
    · exact ⟨_, rfl⟩
    · exact ⟨_, rfl⟩

/-- What is not a number has no size. -/
theorem size_ne_undefined {value : Float} (number : value.isNaN = false) :
    size value ≠ .undefined := by
  have unpacked : value.toModel.unpack.isNaN = false := number
  rw [unpack_eq, decode] at unpacked
  rw [size_eq]
  split at unpacked
  case isTrue top =>
    split at unpacked
    case isTrue zero => simp [top, zero]
    case isFalse => cases unpacked
  case isFalse bounded =>
    rw [if_neg bounded]
    split
    · simp
    · simp

theorem log2_normal {significand : Nat} (lower : twoTo 52 ≤ significand)
    (upper : significand < twoTo 53) : significand.log2 = 52 := by
  exact (log2_eq_iff (Nat.lt_of_lt_of_le (twoTo_pos 52) lower)).mpr ⟨lower, upper⟩

/-- The leading bit of a normal number of steps is given by its exponent field. -/
theorem log2_normalSteps {fraction : Nat} (bound : fraction < twoTo 52) (places : Nat) :
    ((twoTo 52 + fraction) * twoTo places).log2 = 52 + places := by
  rw [log2_mul_twoTo (Nat.add_pos_left (twoTo_pos 52) _),
    log2_normal (Nat.le_add_right _ _) (Nat.add_lt_add_left bound _)]

/-- A number of 52 bits is as far from the next one as the smallest ones are. -/
theorem gap_of_lt {steps : Nat} (short : steps < twoTo 53) : gap steps = 1 := by
  have : steps.log2 - 52 = 0 := by
    rcases Nat.eq_zero_or_pos steps with rfl | positive
    · rfl
    · have := (log2_lt_iff positive).mpr short
      omega
  rw [gap, this]

/-- The size of every finite double is representable. -/
theorem representable_of_size {value : Float} {steps : Nat} (sized : size value = .finite steps) :
    Representable steps := by
  have fractionBound := fraction_lt value
  have fieldBound := field_lt value
  rw [size_eq] at sized
  split at sized
  · split at sized <;> cases sized
  · split at sized
    · cases sized
      refine ⟨?_, Nat.lt_trans fractionBound (twoTo_lt_overflowSteps (by decide))⟩
      rw [gap_of_lt (Nat.lt_trans fractionBound (by decide))]
      exact Nat.one_dvd _
    · cases sized
      refine ⟨?_, ?_⟩
      · rw [gap, log2_normalSteps fractionBound, Nat.add_sub_cancel_left]
        exact Nat.dvd_mul_left _ _
      · calc (twoTo 52 + fraction value) * twoTo (field value - 1)
            < twoTo 53 * twoTo (field value - 1) :=
              Nat.mul_lt_mul_of_pos_right (Nat.add_lt_add_left fractionBound _)
                (twoTo_pos _)
          _ ≤ twoTo 53 * twoTo 2045 := Nat.mul_le_mul_left _ (twoTo_le_twoTo (by omega))
          _ = overflowSteps := (twoTo_add 53 2045).symm.trans (twoTo_eq_overflowSteps rfl)

/-- The sign of a double and its number of steps give it back. -/
theorem ofSteps_of_size {value : Float} {steps : Nat} (sized : size value = .finite steps) :
    ofSteps (isNegative value) steps = value := by
  have small := (representable_of_size sized).lt_overflow
  have fractionBound := fraction_lt value
  have bits : (if isNegative value then twoTo 63 else 0) + (steps.log2 - 52) * twoTo 52
      + steps / twoTo (steps.log2 - 52) = value.toBits.toNat := by
    rw [toNat_toBits]
    rw [size_eq] at sized
    split at sized
    · split at sized <;> cases sized
    · split at sized
      · rename_i bottom
        cases sized
        have unshifted : (fraction value).log2 - 52 = 0 := by
          rcases Nat.eq_zero_or_pos (fraction value) with zero | positive
          · rw [zero]
            rfl
          · have := (log2_lt_iff positive).mpr fractionBound
            omega
        rw [unshifted, bottom]
        exact congrArg _ (Nat.div_one _)
      · rename_i top bottom
        cases sized
        rw [log2_normalSteps fractionBound, Nat.add_sub_cancel_left,
          Nat.mul_div_cancel _ (twoTo_pos _)]
        -- The leading bit of the significand counts for one more in the exponent field.
        have carried : field value * twoTo 52 = (field value - 1) * twoTo 52 + twoTo 52 := by
          rw [← Nat.succ_mul, Nat.succ_eq_add_one, Nat.sub_add_cancel (Nat.pos_of_ne_zero bottom)]
        omega
  rw [ofSteps, if_neg (Nat.not_le.mpr small)]
  simp only [bits, UInt64.ofNat_toNat]
  exact Float.ofBits_toBits value

/-- The sign of an infinity and the first number of steps that is too large give it back. -/
theorem ofSteps_of_infinite {value : Float} (infinite : size value = .infinite) :
    ofSteps (isNegative value) overflowSteps = value := by
  have bits : (if isNegative value then twoTo 63 else 0) + 2047 * twoTo 52
      = value.toBits.toNat := by
    rw [toNat_toBits]
    rw [size_eq] at infinite
    split at infinite
    · rename_i top
      split at infinite
      · rename_i zero
        rw [top, zero]
        rfl
      · cases infinite
    · split at infinite <;> cases infinite
  rw [ofSteps, if_pos (Nat.le_refl _)]
  simp only [bits, UInt64.ofNat_toNat]
  exact Float.ofBits_toBits value

end DeltaStudy.Numeral
