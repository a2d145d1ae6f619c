import DeltaStudy.Proofs.Campaign.Acceptance
import DeltaStudy.Proofs.Numeral.Arithmetic

/-!
# Delays in steps

A delay is the whole part of a product that is rounded twice, for the generation time need
not be a double either. Both roundings and the cut keep the order, so a smaller value with a
smaller time has a smaller delay, whenever the larger ones have one. The limit `2^64` is a
double itself, and so no delay is cut down to the largest word.
-/

namespace DeltaStudy.Campaign

open Numeral

variable {delta delta' : Float} {generationTime generationTime' delay delay' : UInt64}
  {size size' : Nat}

/-! ## Whole parts -/

/-- The whole part of a finite double that is not negative. -/
structure IsWholePart (value : Float) (number : Nat) : Prop where
  finite : value.isFinite = true
  le : (number * stepsPerUnit : Nat) ≤ exactSteps value
  lt : exactSteps value < ((number + 1) * stepsPerUnit : Nat)

theorem isWholePart_of_isSteps {value : Float} (isSteps : IsSteps value size) :
    IsWholePart value (size / stepsPerUnit) := by
  refine ⟨isSteps.finite, ?_, ?_⟩
  · rw [isSteps.exact]
    exact Int.ofNat_le.mpr (Nat.div_mul_le_self _ _)
  · rw [isSteps.exact]
    exact Int.ofNat_lt.mpr (Nat.lt_mul_of_div_lt (Nat.lt_succ_self _) stepsPerUnit_pos)

theorem isNumber_one : IsNumber 1 1 := by
  show IsSteps _ _
  decide +kernel

/-- The whole part is zero below one only. -/
theorem IsWholePart.eq_zero_iff {value : Float} {number : Nat}
    (isWholePart : IsWholePart value number) : number = 0 ↔ value < 1 := by
  obtain ⟨finite, lower, upper⟩ := isWholePart
  have exact : IsSteps value (exactSteps value) := ⟨finite, rfl⟩
  rw [exact.lt_iff isNumber_one]
  constructor
  · rintro rfl
    rwa [Nat.zero_add] at upper
  · intro small
    have below := Nat.lt_of_mul_lt_mul_right (Int.ofNat_lt.mp (Int.lt_of_le_of_lt lower small))
    omega

/-! ## Products -/

/-- The steps of the product of a value and a generation time: the time is rounded to a
double first, and then the product is. -/
def productSteps (size : Nat) (generationTime : UInt64) : Nat :=
  nearest (size * nearest (generationTime.toNat * stepsPerUnit) 1) stepsPerUnit

/-- Both roundings keep the order. -/
theorem productSteps_mono (sizes : size ≤ size') (times : generationTime ≤ generationTime') :
    productSteps size generationTime ≤ productSteps size' generationTime' := by
  refine nearest_mono (Nat.mul_le_mul sizes ?_) stepsPerUnit_pos
  exact nearest_mono (Nat.mul_le_mul_right _ (UInt64.le_iff_toNat_le.mp times)) Nat.one_pos

/-- A product that fits a word is finite. -/
theorem isSteps_product (isSteps : IsSteps delta size)
    (small : productSteps size generationTime < twoTo 64 * stepsPerUnit) :
    IsSteps (delta * generationTime.toFloat) (productSteps size generationTime) := by
  have limit := eight_words_le
  exact isSteps.mul_natCast (isSteps_toFloat generationTime)
    (show productSteps size generationTime < overflowSteps by omega)

theorem isNumber_limit : IsNumber 18446744073709551616 (twoTo 64) := by
  show IsSteps _ _
  decide +kernel

/-- A product is below the limit exactly if its steps are. -/
theorem product_lt_iff (positive : Positive delta) (isSteps : IsSteps delta size) :
    delta * generationTime.toFloat < 18446744073709551616
      ↔ productSteps size generationTime < twoTo 64 * stepsPerUnit := by
  have limitPositive : Positive 18446744073709551616 :=
    IsSteps.positive isNumber_limit
      (Int.natCast_pos.mpr (Nat.mul_pos (twoTo_pos 64) stepsPerUnit_pos))
  constructor
  · intro below
    have finite := ((limitPositive.lt_iff (positive.upright_mul generationTime)).mp below).1
    have product := isSteps.mul_of_isFinite (isSteps_toFloat generationTime) finite
    rw [roundedProduct_natCast] at product
    exact Int.ofNat_lt.mp ((product.lt_iff isNumber_limit).mp below)
  · intro small
    exact ((isSteps_product isSteps small).lt_iff isNumber_limit).mpr (Int.ofNat_lt.mpr small)

/-! ## Delays -/

/-- A delay is a product without its fraction. -/
theorem eq_toUInt64_of_delayFor (fits : delayFor delta generationTime = .ok delay) :
    delay = (delta * generationTime.toFloat).toUInt64 := by
  rw [delayFor] at fits
  split at fits
  · simp only at fits
    split at fits
    · cases fits
    · cases fits
      rfl
  · cases fits

/-- A positive value has a delay if its product fits a word, and it is the number of units
in that product. -/
theorem delayFor_eq_ok_iff (positive : Positive delta) (isSteps : IsSteps delta size) :
    delayFor delta generationTime = .ok delay ↔
      productSteps size generationTime < twoTo 64 * stepsPerUnit
      ∧ delay.toNat = productSteps size generationTime / stepsPerUnit := by
  have accepted : (∃ delay, delayFor delta generationTime = .ok delay)
      ↔ productSteps size generationTime < twoTo 64 * stepsPerUnit := by
    obtain ⟨finite, above⟩ := (positive_iff delta).mp positive
    rw [delayFor_ok_iff, product_lt_iff positive isSteps]
    simp [finite, above]
  have units {delay : UInt64} (fits : delayFor delta generationTime = .ok delay) :
      delay.toNat = productSteps size generationTime / stepsPerUnit := by
    have small := accepted.mp ⟨delay, fits⟩
    have word := (Nat.div_lt_iff_lt_mul stepsPerUnit_pos).mpr small
    rw [eq_toUInt64_of_delayFor fits, (isSteps_product isSteps small).toNat_toUInt64,
      Nat.min_eq_left (by omega)]
  constructor
  · intro fits
    exact ⟨accepted.mp ⟨delay, fits⟩, units fits⟩
  · rintro ⟨small, counted⟩
    obtain ⟨delay', fits⟩ := accepted.mpr small
    rwa [UInt64.toNat_inj.mp (counted.trans (units fits).symm)]

/-- A value that has a delay is positive. -/
theorem positive_of_delayFor (fits : delayFor delta generationTime = .ok delay) :
    Positive delta := by
  obtain ⟨finite, above, -⟩ := delayFor_ok_iff.mp ⟨delay, fits⟩
  exact (positive_iff delta).mpr ⟨finite, above⟩

theorem isWholePart_of_delayFor (fits : delayFor delta generationTime = .ok delay) :
    IsWholePart (delta * generationTime.toFloat) delay.toNat := by
  have positive := positive_of_delayFor fits
  obtain ⟨size, isSteps⟩ := positive.exists_isSteps
  obtain ⟨small, counted⟩ := (delayFor_eq_ok_iff positive isSteps).mp fits
  rw [counted]
  exact isWholePart_of_isSteps (isSteps_product isSteps small)

/-- A smaller value with a smaller time has a smaller delay. -/
theorem delayFor_mono (above : 0 < delta) (deltas : delta ≤ delta')
    (times : generationTime ≤ generationTime')
    (fits' : delayFor delta' generationTime' = .ok delay') :
    ∃ delay, delayFor delta generationTime = .ok delay ∧ delay ≤ delay' := by
  have positive' := positive_of_delayFor fits'
  obtain ⟨size', isSteps'⟩ := positive'.exists_isSteps
  have positive : Positive delta :=
    (positive_iff delta).mpr ⟨isFinite_of_le above deltas isSteps'.finite, above⟩
  obtain ⟨size, isSteps⟩ := positive.exists_isSteps
  have sizes := Int.ofNat_le.mp ((isSteps.le_iff isSteps').mp deltas)
  have products := productSteps_mono sizes times
  obtain ⟨small', counted'⟩ := (delayFor_eq_ok_iff positive' isSteps').mp fits'
  have small := Nat.lt_of_le_of_lt products small'
  obtain ⟨delay, fits⟩ : ∃ delay, delayFor delta generationTime = .ok delay :=
    delayFor_ok_iff.mpr ⟨isSteps.finite, above, (product_lt_iff positive isSteps).mpr small⟩
  obtain ⟨-, counted⟩ := (delayFor_eq_ok_iff positive isSteps).mp fits
  refine ⟨delay, fits, UInt64.le_iff_toNat_le.mpr ?_⟩
  rw [counted, counted']
  exact Nat.div_le_div_right products

/-- A value has a delay exactly if it is finite and positive and its product with the
generation time is below `2^64`. The delay is then the whole part of that product and does
not decrease with either factor. Every other value is at fault. -/
theorem delayFor_exact (delta : Float) (generationTime : UInt64) :
    ((∃ delay, delayFor delta generationTime = .ok delay) ↔
      delta.isFinite = true ∧ 0 < delta
        ∧ delta * generationTime.toFloat < 18446744073709551616)
    ∧ (∀ delay, delayFor delta generationTime = .ok delay →
        IsWholePart (delta * generationTime.toFloat) delay.toNat
        ∧ (delay = 0 ↔ delta * generationTime.toFloat < 1))
    ∧ (∀ failure, delayFor delta generationTime = .error failure →
        failure.kind = .configuration)
    ∧ ∀ delta' generationTime' delay', 0 < delta → delta ≤ delta' →
        generationTime ≤ generationTime' → delayFor delta' generationTime' = .ok delay' →
        ∃ delay, delayFor delta generationTime = .ok delay ∧ delay ≤ delay' := by
  refine ⟨delayFor_ok_iff, fun delay fits => ?_, fun _ => delayFor_error_kind, ?_⟩
  · have isWholePart := isWholePart_of_delayFor fits
    refine ⟨isWholePart, ?_⟩
    rw [← isWholePart.eq_zero_iff, ← UInt64.toNat_inj]
    rfl
  · intro delta' generationTime' delay' above deltas times fits'
    exact delayFor_mono above deltas times fits'

/-- The largest word is no double, and the time that it is rounded to is the limit. -/
theorem delayFor_exact_rounded_time :
    (0 : Float) < 0.1 ∧ (0.1 : Float) ≤ 0.5 ∧ (7 : UInt64) ≤ 18446744073709551615
    ∧ delayFor 0.5 18446744073709551615 = .ok 9223372036854775808
    ∧ ∃ delay, delayFor 0.1 7 = .ok delay ∧ delay ≤ 9223372036854775808 := by
  have ordered : (0 : Float) < 0.1 ∧ (0.1 : Float) ≤ 0.5 := by decide +kernel
  have times : (7 : UInt64) ≤ 18446744073709551615 := by decide
  have fits : delayFor 0.5 18446744073709551615 = .ok 9223372036854775808 := by decide +kernel
  obtain ⟨-, -, -, monotone⟩ := delayFor_exact 0.1 7
  exact ⟨ordered.1, ordered.2, times, fits, monotone _ _ _ ordered.1 ordered.2 times fits⟩

end DeltaStudy.Campaign
