import DeltaStudy.Proofs.Numeral.Nearest
import DeltaStudy.Proofs.Numeral.Positive

/-!
# Exact values of doubles

A finite double is a whole number of least steps on either side of zero. Its significand
and its exponent are canonical, which means that they are determined by that number, and
what an operation gives in canonical form is kept by packing unless it is too large. Finite
doubles are compared as their numbers of steps are.

How the operations of `Float` arrive at their results is not said here.
-/

namespace DeltaStudy.Numeral

open Float.Model Float.Model.UnpackedFloat

variable {mantissa mantissa' : Nat} {exponent exponent' steps steps' : Int}

/-- The value of a finite double in least steps. -/
def exactSteps (value : Float) : Int :=
  match size value with
  | .finite steps => if isNegative value then -steps else steps
  | _ => 0

theorem exactSteps_of_size {value : Float} {steps : Nat} (sized : size value = .finite steps) :
    exactSteps value = if isNegative value then -(steps : Int) else steps := by
  rw [exactSteps, sized]

/-- A double that is a number of steps. -/
structure IsSteps (value : Float) (steps : Int) : Prop where
  finite : value.isFinite = true
  exact : exactSteps value = steps

instance (value : Float) (steps : Int) : Decidable (IsSteps value steps) :=
  decidable_of_iff (value.isFinite = true ∧ exactSteps value = steps)
    ⟨fun both => ⟨both.1, both.2⟩, fun isSteps => ⟨isSteps.finite, isSteps.exact⟩⟩

/-- A positive double is a number of steps. -/
theorem Positive.exists_isSteps {value : Float} (positive : Positive value) :
    ∃ size : Nat, IsSteps value size := by
  obtain ⟨upright, size, sized⟩ := positive.size_eq
  refine ⟨size, ((positive_iff value).mp positive).1, ?_⟩
  rw [exactSteps_of_size sized, upright]
  rfl

/-! ## Canonical numbers -/

/-- A significand and an exponent as rounding leaves them. -/
structure Canonical (mantissa : Nat) (exponent : Int) : Prop where
  /-- The significand has 53 bits at most. -/
  short : mantissa < twoTo 53
  /-- The exponent is that of the least step or larger. -/
  least : -1074 ≤ exponent
  /-- The significand has fewer bits at the least exponent only. -/
  normal : exponent = -1074 ∨ twoTo 52 ≤ mantissa

/-- The number of steps that a significand and an exponent stand for. -/
def scaled (mantissa : Nat) (exponent : Int) : Nat :=
  mantissa * twoTo (exponent + 1074).toNat

theorem scaled_pos (positive : 0 < mantissa) : 0 < scaled mantissa exponent :=
  Nat.mul_pos positive (twoTo_pos _)

/-- A canonical number is representable as far as its bits go. -/
theorem Canonical.gap_dvd (canonical : Canonical mantissa exponent) :
    gap (scaled mantissa exponent) ∣ scaled mantissa exponent :=
  gap_dvd_of_le (Nat.le_of_lt canonical.short) _

/-- A canonical number with a larger exponent is larger. -/
theorem Canonical.scaled_lt_of_lt (left : Canonical mantissa exponent)
    (right : Canonical mantissa' exponent') (less : exponent < exponent') :
    scaled mantissa exponent < scaled mantissa' exponent' := by
  have least := left.least
  have normal : twoTo 52 ≤ mantissa' := right.normal.resolve_left (by omega)
  have places : 53 + (exponent + 1074).toNat ≤ 52 + (exponent' + 1074).toNat := by omega
  calc mantissa * twoTo (exponent + 1074).toNat
      < twoTo 53 * twoTo (exponent + 1074).toNat :=
        Nat.mul_lt_mul_of_pos_right left.short (twoTo_pos _)
    _ ≤ twoTo 52 * twoTo (exponent' + 1074).toNat := by
        rw [← twoTo_add, ← twoTo_add]
        exact twoTo_le_twoTo places
    _ ≤ mantissa' * twoTo (exponent' + 1074).toNat := Nat.mul_le_mul_right _ normal

/-- Canonical numbers are compared by their exponents first. -/
theorem Canonical.compare_scaled (left : Canonical mantissa exponent)
    (right : Canonical mantissa' exponent') :
    (compare exponent exponent').then (compare mantissa mantissa')
      = compare (scaled mantissa exponent : Int) (scaled mantissa' exponent') := by
  rcases Int.lt_trichotomy exponent exponent' with less | rfl | more
  · have smaller := Int.ofNat_lt.mpr (left.scaled_lt_of_lt right less)
    rw [Int.compare_eq_lt.mpr less, Int.compare_eq_lt.mpr smaller]
    rfl
  · have room := twoTo_pos (exponent + 1074).toNat
    rw [Int.compare_eq_eq.mpr rfl, Ordering.then]
    rcases Nat.lt_trichotomy mantissa mantissa' with less | rfl | more
    · rw [Nat.compare_eq_lt.mpr less]
      exact (Int.compare_eq_lt.mpr
        (Int.ofNat_lt.mpr (Nat.mul_lt_mul_of_pos_right less room))).symm
    · rw [Nat.compare_eq_eq.mpr rfl, Int.compare_eq_eq.mpr rfl]
    · rw [Nat.compare_eq_gt.mpr more]
      exact (Int.compare_eq_gt.mpr
        (Int.ofNat_lt.mpr (Nat.mul_lt_mul_of_pos_right more room))).symm
  · have larger := Int.ofNat_lt.mpr (right.scaled_lt_of_lt left more)
    rw [Int.compare_eq_gt.mpr more, Int.compare_eq_gt.mpr larger]
    rfl

/-! ## Unpacked numbers -/

theorem apply_signOf (negative : Bool) (number : Int) :
    (signOf negative).apply number = if negative then -number else number := by
  cases negative with
  | true => rfl
  | false => rfl

theorem natAbs_apply (sign : Sign) (number : Nat) : (sign.apply number).natAbs = number := by
  cases sign with
  | negative => exact Int.natAbs_neg number
  | positive => rfl

/-- Both sides of a comparison change their signs. -/
theorem compare_neg_neg (left right : Int) : compare (-left) (-right) = (compare left right).swap := by
  rcases Int.lt_trichotomy left right with less | rfl | more
  · rw [Int.compare_eq_lt.mpr less, Int.compare_eq_gt.mpr (Int.neg_lt_neg less)]
    rfl
  · rw [Int.compare_eq_eq.mpr rfl, Int.compare_eq_eq.mpr rfl]
    rfl
  · rw [Int.compare_eq_gt.mpr more, Int.compare_eq_lt.mpr (Int.neg_lt_neg more)]
    rfl

/-- An unpacked number in canonical form, and the steps that it stands for. It may be too
large to be packed. -/
inductive Spells : UnpackedFloat → Int → Prop
  | zero (sign : Sign) : Spells (.zero sign) 0
  | finite (sign : Sign) {mantissa : Nat} {exponent : Int} (positive : 0 < mantissa)
    (canonical : Canonical mantissa exponent) :
    Spells (.finite sign mantissa exponent positive) (sign.apply (scaled mantissa exponent))

variable {number left right : UnpackedFloat}

/-- An unpacked number stands for one number of steps. -/
theorem Spells.unique (spells : Spells number steps) (spells' : Spells number steps') :
    steps = steps' := by
  cases spells with
  | zero => cases spells'; rfl
  | finite => cases spells'; rfl

/-- What is spelled in canonical form is representable as far as its bits go. -/
theorem Spells.gap_dvd (spells : Spells number steps) : gap steps.natAbs ∣ steps.natAbs := by
  cases spells with
  | zero => exact Nat.dvd_zero _
  | finite sign positive canonical =>
    rw [natAbs_apply]
    exact canonical.gap_dvd

/-- Numbers in canonical form are compared as their steps are. -/
theorem Spells.compare_eq (spells : Spells left steps) (spells' : Spells right steps') :
    left.compare right = some (compare steps steps') := by
  have below {size : Nat} (positive : 0 < size) : -(size : Int) < 0 := by omega
  have above {size : Nat} (positive : 0 < size) : 0 < (size : Int) := by omega
  cases spells with
  | zero sign =>
    cases spells' with
    | zero sign' => rfl
    | finite sign' positive' canonical' =>
      cases sign' with
      | negative => exact congrArg some (Int.compare_eq_gt.mpr (below (scaled_pos positive'))).symm
      | positive => exact congrArg some (Int.compare_eq_lt.mpr (above (scaled_pos positive'))).symm
  | finite sign positive canonical =>
    cases spells' with
    | zero sign' =>
      cases sign with
      | negative => exact congrArg some (Int.compare_eq_lt.mpr (below (scaled_pos positive))).symm
      | positive => exact congrArg some (Int.compare_eq_gt.mpr (above (scaled_pos positive))).symm
    | finite sign' positive' canonical' =>
      have sizes := canonical.compare_scaled canonical'
      cases sign with
      | negative =>
        cases sign' with
        | negative =>
          exact congrArg some ((congrArg _ sizes).trans (compare_neg_neg _ _).symm)
        | positive =>
          exact congrArg some (Int.compare_eq_lt.mpr
            (Int.lt_trans (below (scaled_pos positive)) (above (scaled_pos positive')))).symm
      | positive =>
        cases sign' with
        | negative =>
          exact congrArg some (Int.compare_eq_gt.mpr
            (Int.lt_trans (below (scaled_pos positive')) (above (scaled_pos positive)))).symm
        | positive => exact congrArg some sizes

/-- What is unpacked from a finite double is in canonical form. -/
theorem spells_of_isFinite {value : Float} (finite : value.isFinite = true) :
    Spells value.toModel.unpack (exactSteps value) := by
  have unpacked : value.toModel.unpack.isFinite = true := finite
  have short := fraction_lt value
  rw [unpack_eq, decode] at unpacked ⊢
  rw [exactSteps, size_eq]
  by_cases top : field value = 2047
  · rw [if_pos top] at unpacked
    split at unpacked
    · cases unpacked
    · cases unpacked
  · rw [if_neg top, if_neg top]
    by_cases bottom : field value = 0
    · rw [if_pos bottom, if_pos bottom]
      by_cases zero : fraction value = 0
      · rw [dif_pos zero]
        simp only [zero, Int.ofNat_zero, Int.neg_zero, ite_self]
        exact .zero _
      · rw [dif_neg zero]
        have unscaled : scaled (fraction value) (-1074) = fraction value := Nat.mul_one _
        have canonical : Canonical (fraction value) (-1074) :=
          ⟨Nat.lt_trans short (by decide), Int.le_refl _, .inl rfl⟩
        have spells := Spells.finite (signOf (isNegative value)) (Nat.pos_of_ne_zero zero) canonical
        rwa [unscaled, apply_signOf] at spells
    · rw [if_neg bottom, if_neg bottom]
      have places : ((field value : Int) - 1075 + 1074).toNat = field value - 1 := by omega
      have canonical : Canonical (twoTo 52 + fraction value) (field value - 1075) :=
        ⟨Nat.add_lt_add_left short _, by omega, .inr (Nat.le_add_right _ _)⟩
      have spells := Spells.finite (signOf (isNegative value))
        (Nat.add_pos_left (twoTo_pos 52) (fraction value)) canonical
      rwa [scaled, places, apply_signOf] at spells

/-- The steps of a double are those that it is unpacked to. -/
theorem isSteps_iff {value : Float} :
    IsSteps value steps ↔ Spells value.toModel.unpack steps := by
  constructor
  · rintro ⟨finite, exact⟩
    exact exact ▸ spells_of_isFinite finite
  · intro spells
    have finite : value.isFinite = true := by
      show value.toModel.unpack.isFinite = true
      generalize value.toModel.unpack = number at spells
      cases spells with
      | zero => rfl
      | finite => rfl
    exact ⟨finite, (spells_of_isFinite finite).unique spells⟩

/-- A finite double has a representable number of steps. -/
theorem IsSteps.representable {value : Float} (isSteps : IsSteps value steps) :
    Representable steps.natAbs := by
  obtain ⟨size, sized⟩ := exists_size_of_isFinite isSteps.finite
  have spelled := isSteps.exact.symm.trans (exactSteps_of_size sized)
  have same : steps.natAbs = size := by
    rw [spelled]
    split
    · exact Int.natAbs_neg size
    · rfl
  rw [same]
  exact representable_of_size sized

/-! ## Packing -/

/-- Canonical numbers of steps that are not too large have exponents that can be packed. -/
theorem Canonical.exponent_le (canonical : Canonical mantissa exponent)
    (small : scaled mantissa exponent < overflowSteps) : exponent ≤ 971 := by
  refine Int.not_lt.mp fun large => Nat.not_le.mpr small ?_
  have normal : twoTo 52 ≤ mantissa := canonical.normal.resolve_left (by omega)
  refine Nat.le_trans ?_ (Nat.mul_le_mul_right _ normal)
  rw [← twoTo_add]
  exact overflowSteps_le_twoTo (by omega)

/-- Canonical numbers of steps that are too large have exponents that cannot be packed. -/
theorem Canonical.le_exponent (canonical : Canonical mantissa exponent)
    (large : overflowSteps ≤ scaled mantissa exponent) : 972 ≤ exponent := by
  refine Int.not_lt.mp fun less => Nat.not_lt.mpr large ?_
  have least := canonical.least
  calc scaled mantissa exponent
      < twoTo 53 * twoTo (exponent + 1074).toNat :=
        Nat.mul_lt_mul_of_pos_right canonical.short (twoTo_pos _)
    _ ≤ twoTo 53 * twoTo 2045 := Nat.mul_le_mul_left _ (twoTo_le_twoTo (by omega))
    _ = overflowSteps := (twoTo_add 53 2045).symm.trans (twoTo_eq_overflowSteps rfl)

/-- The exponent field of a packed number. -/
theorem toNat_biased (exponent : Int) :
    (exponent + Format.binary64.exponentBias + Format.binary64.mantissaBitsWithoutImplicit).toNat
      = (exponent + 1075).toNat := by
  show (exponent + 1023 + 52).toNat = (exponent + 1075).toNat
  omega

/-- A number with fewer bits than there is room for is kept by packing. -/
theorem unpack_pack_low (sign : Sign) (positive : 0 < mantissa) (low : mantissa < twoTo 52) :
    (Float.Model.pack (.finite sign mantissa (-1074) positive)).unpack
      = .finite sign mantissa (-1074) positive := by
  have bits : ¬ mantissa.log2 + 1 = Format.binary64.mantissaBits := by
    have := (log2_lt_iff positive).mpr low
    show ¬ mantissa.log2 + 1 = 53
    omega
  have inField : ¬ 2 ^ Format.binary64.exponentBits ≤ (-1074 + 1075 : Int).toNat + 1 := by decide
  have kept : (BitVec.ofNat 52 mantissa).toNat = mantissa := Nat.mod_eq_of_lt low
  have top : (-1#11).toNat = 2047 := rfl
  show UnpackedFloat.unpack Format.binary64 (UnpackedFloat.pack Format.binary64 _) = _
  simp only [UnpackedFloat.pack, toNat_biased (-1074), if_neg inField, if_neg bits]
  rw [UnpackedFloat.unpack]
  simp only [unpackMantissa_packComponents, unpackExponent_packComponents,
    unpackSign_packComponents, Sign.ofBitVec_toBitVec, ← BitVec.toNat_inj, kept, top,
    BitVec.toNat_zero, Nat.ne_of_gt positive]
  rfl

/-- A number with all bits that there is room for is kept by packing. -/
theorem unpack_pack_high (sign : Sign) (positive : 0 < mantissa) (high : twoTo 52 ≤ mantissa)
    (short : mantissa < twoTo 53) (least : -1074 ≤ exponent) (bounded : exponent ≤ 971) :
    (Float.Model.pack (.finite sign mantissa exponent positive)).unpack
      = .finite sign mantissa exponent positive := by
  have bits : mantissa.log2 + 1 = Format.binary64.mantissaBits := by
    rw [log2_normal high short]
    rfl
  have inField : ¬ 2 ^ Format.binary64.exponentBits ≤ (exponent + 1075).toNat + 1 := by
    show ¬ 2048 ≤ (exponent + 1075).toNat + 1
    omega
  have kept : (1#1 ++ BitVec.ofNat 52 mantissa).toNat = mantissa := by
    rw [toNat_implicit, BitVec.toNat_ofNat]
    simp only [twoTo, Nat.pow_eq, Nat.reducePow] at high short ⊢
    omega
  have field : (BitVec.ofNat 11 (exponent + 1075).toNat).toNat = (exponent + 1075).toNat := by
    rw [BitVec.toNat_ofNat]
    omega
  have top : (-1#11).toNat = 2047 := rfl
  show UnpackedFloat.unpack Format.binary64 (UnpackedFloat.pack Format.binary64 _) = _
  simp only [UnpackedFloat.pack, toNat_biased exponent, if_neg inField, if_pos bits]
  rw [UnpackedFloat.unpack]
  simp only [unpackMantissa_packComponents, unpackExponent_packComponents,
    unpackSign_packComponents, Sign.ofBitVec_toBitVec, ← BitVec.toNat_inj, kept, top, field,
    BitVec.toNat_zero]
  rw [if_neg (by omega), if_neg (by omega)]
  congr 1
  show ((exponent + 1075).toNat : Int) - (1023 + 52) = exponent
  omega

/-- A number whose exponent is too large becomes infinite by packing. -/
theorem unpack_pack_large (sign : Sign) (positive : 0 < mantissa) (large : 972 ≤ exponent) :
    (Float.Model.pack (.finite sign mantissa exponent positive)).unpack = .infinity sign := by
  have overfull : 2 ^ Format.binary64.exponentBits ≤ (exponent + 1075).toNat + 1 := by
    show 2048 ≤ (exponent + 1075).toNat + 1
    omega
  show UnpackedFloat.unpack Format.binary64 (UnpackedFloat.pack Format.binary64 _) = _
  simp only [UnpackedFloat.pack, toNat_biased exponent, if_pos overfull]
  cases sign with
  | negative => rfl
  | positive => rfl

/-- What is in canonical form and not too large is kept by packing. -/
theorem Spells.unpack_pack (spells : Spells number steps) (small : steps.natAbs < overflowSteps) :
    (Float.Model.pack number).unpack = number := by
  cases spells with
  | zero sign =>
    cases sign with
    | negative => rfl
    | positive => rfl
  | @finite sign mantissa exponent positive canonical =>
    rw [natAbs_apply] at small
    have bounded := canonical.exponent_le small
    obtain ⟨short, least, normal⟩ := canonical
    rcases Nat.lt_or_ge mantissa (twoTo 52) with low | high
    · obtain rfl : exponent = -1074 := normal.resolve_right (Nat.not_le.mpr low)
      exact unpack_pack_low sign positive low
    · exact unpack_pack_high sign positive high short least bounded

/-- A double that was packed from canonical form has its steps. -/
theorem Spells.isSteps (spells : Spells number steps) (small : steps.natAbs < overflowSteps) :
    IsSteps (Float.ofModel (Float.Model.pack number)) steps := by
  rw [isSteps_iff]
  show Spells (Float.Model.pack number).unpack steps
  rwa [spells.unpack_pack small]

/-- What is in canonical form and finite after packing was not too large. -/
theorem Spells.lt_overflowSteps (spells : Spells number steps)
    (finite : (Float.Model.pack number).unpack.isFinite = true) :
    steps.natAbs < overflowSteps := by
  cases spells with
  | zero sign => exact Nat.lt_trans Nat.zero_lt_one (twoTo_lt_overflowSteps (by decide : 0 < 2098))
  | finite sign positive canonical =>
    rw [natAbs_apply]
    refine Nat.lt_of_not_le fun large => ?_
    rw [unpack_pack_large sign positive (canonical.le_exponent large)] at finite
    cases finite

/-! ## Comparing -/

variable {first second : Float}

theorem IsSteps.lt_iff (isSteps : IsSteps first steps) (isSteps' : IsSteps second steps') :
    first < second ↔ steps < steps' := by
  rw [lt_iff_compare, (isSteps_iff.mp isSteps).compare_eq (isSteps_iff.mp isSteps'),
    Option.some.injEq, Int.compare_eq_lt]

theorem IsSteps.le_iff (isSteps : IsSteps first steps) (isSteps' : IsSteps second steps') :
    first ≤ second ↔ steps ≤ steps' := by
  rw [le_iff_compare, (isSteps_iff.mp isSteps).compare_eq (isSteps_iff.mp isSteps')]
  exact Int.isLE_compare

theorem isSteps_zero : IsSteps 0 0 := by
  refine isSteps_iff.mpr ?_
  rw [unpack_zero]
  exact .zero _

/-- A positive number of steps is a positive double. -/
theorem IsSteps.positive (isSteps : IsSteps first steps) (above : 0 < steps) : Positive first :=
  (positive_iff first).mpr ⟨isSteps.finite, (isSteps_zero.lt_iff isSteps).mpr above⟩

theorem nonneg_iff (finite : first.isFinite = true) : 0 ≤ first ↔ 0 ≤ exactSteps first :=
  isSteps_zero.le_iff ⟨finite, rfl⟩

end DeltaStudy.Numeral
