import DeltaStudy.Proofs.Numeral.Exact

/-!
# Arithmetic in least steps

The operations of `Float` on finite doubles are those on numbers of steps, followed by
rounding to the nearest representable number. Sums and differences are rounded as
they are, products are divided by the steps of one first, and a word is so many times the
steps of one. Cutting off the fraction of a double divides its steps by those of one.

What is too large to be finite is left out, and so is division.
-/

namespace DeltaStudy.Numeral

open Float.Model Float.Model.UnpackedFloat

variable {mantissa : Nat} {exponent steps steps' : Int} {number left right : UnpackedFloat}

/-- The representable number of steps that is nearest to one on either side of zero. -/
def rounded (steps : Int) : Int :=
  steps.sign * nearest steps.natAbs 1

theorem rounded_natCast (steps : Nat) : rounded steps = nearest steps 1 := by
  rw [rounded, Int.natAbs_natCast]
  rcases Nat.eq_zero_or_pos steps with rfl | positive
  · rfl
  · rw [Int.sign_eq_one_of_pos (Int.natCast_pos.mpr positive), Int.one_mul]

theorem rounded_apply (sign : Sign) (steps : Nat) :
    rounded (sign.apply steps) = sign.apply (nearest steps 1) := by
  cases sign with
  | negative =>
    have cast := rounded_natCast steps
    rw [rounded, Int.natAbs_natCast] at cast
    show rounded (-steps) = -_
    rw [rounded, Int.sign_neg, Int.natAbs_neg, Int.natAbs_natCast, Int.neg_mul, cast]
  | positive => exact rounded_natCast steps

theorem natAbs_rounded (steps : Int) : (rounded steps).natAbs = nearest steps.natAbs 1 := by
  rw [rounded, Int.natAbs_mul, Int.natAbs_natCast]
  by_cases zero : steps = 0
  · rw [zero]
    exact (Nat.zero_mul _).trans (nearest_zero Nat.one_pos).symm
  · rw [Int.natAbs_sign_of_ne_zero zero, Nat.one_mul]

/-- What is spelled in canonical form is rounded to itself. -/
theorem Spells.rounded_eq (spells : Spells number steps) : rounded steps = steps := by
  rw [rounded, nearest_one spells.gap_dvd, Int.sign_mul_natAbs]

/-! ## Significands -/

/-- Shifting a significand keeps what was cut off in two bits: whether it is a half at least,
and whether it is anything else than that half. -/
theorem shiftRight_eq (mantissa places : Nat) :
    (ExtendedMantissa.mk mantissa false false >>> places)
      = ⟨mantissa / twoTo places, decide (twoTo places ≤ 2 * (mantissa % twoTo places)),
          2 * (mantissa % twoTo places) % twoTo places != 0⟩ := by
  show places.repeat ExtendedMantissa.shiftRightOne _ = _
  induction places with
  | zero => simp [Nat.repeat, twoTo, Nat.mod_one]
  | succ places inductionHypothesis =>
    have rest := Nat.mod_lt mantissa (twoTo_pos places)
    have cut := Nat.mod_mul (a := twoTo places) (b := 2) (x := mantissa)
    have half : mantissa / twoTo places % 2 = 0 ∨ mantissa / twoTo places % 2 = 1 :=
      Nat.mod_two_eq_zero_or_one _
    have doubled : twoTo (places + 1) = twoTo places * 2 := Nat.pow_succ 2 places
    rw [Nat.repeat, inductionHypothesis, doubled, cut, ExtendedMantissa.shiftRightOne]
    simp only [ExtendedMantissa.mk.injEq]
    refine ⟨Nat.div_div_eq_div_mul _ _ _, ?_, ?_⟩
    · rw [Bool.eq_iff_iff, bne_iff_ne, decide_eq_true_iff]
      rcases half with even | odd
      · rw [even]
        omega
      · rw [odd]
        omega
    · have kept : 2 * (mantissa % twoTo places + twoTo places * (mantissa / twoTo places % 2))
          % (twoTo places * 2) = 2 * (mantissa % twoTo places) := by
        rw [Nat.mul_add, Nat.mul_left_comm 2, ← Nat.mul_assoc, Nat.add_mul_mod_self_left,
          Nat.mod_eq_of_lt (by omega)]
      rw [kept, Bool.eq_iff_iff, Bool.or_eq_true, decide_eq_true_iff, bne_iff_ne, bne_iff_ne]
      rcases Nat.lt_or_ge (2 * (mantissa % twoTo places)) (twoTo places) with less | more
      · rw [Nat.mod_eq_of_lt less]
        omega
      · omega

theorem mantissa_shiftRight (mantissa places : Nat) :
    (ExtendedMantissa.mk mantissa false false >>> places).mantissa = mantissa / twoTo places :=
  congrArg ExtendedMantissa.mantissa (shiftRight_eq mantissa places)

/-- A shifted significand is rounded as the quotient by a power of two is. -/
theorem roundedMantissa_shiftRight (mantissa places : Nat) :
    (ExtendedMantissa.mk mantissa false false >>> places).roundedMantissa
      = roundHalfEven mantissa (twoTo places) := by
  have rest := Nat.mod_lt mantissa (twoTo_pos places)
  rw [shiftRight_eq, ExtendedMantissa.roundedMantissa, roundHalfEven]
  generalize mantissa / twoTo places = below
  generalize mantissa % twoTo places = cut at *
  rcases Nat.lt_trichotomy (2 * cut) (twoTo places) with less | tie | more
  · have low : decide (twoTo places ≤ 2 * cut) = false := decide_eq_false (Nat.not_le.mpr less)
    rw [low, if_pos less]
    cases (2 * cut % twoTo places != 0) with
    | false => rfl
    | true => rfl
  · have high : decide (twoTo places ≤ 2 * cut) = true := decide_eq_true (Nat.le_of_eq tie.symm)
    rw [high, tie, Nat.mod_self, if_neg (Nat.lt_irrefl _), if_neg (Nat.lt_irrefl _)]
    rfl
  · have high : decide (twoTo places ≤ 2 * cut) = true := decide_eq_true (Nat.le_of_lt more)
    have sticky : (2 * cut % twoTo places != 0) = true := by
      rw [bne_iff_ne, Nat.mod_eq_sub_mod (Nat.le_of_lt more), Nat.mod_eq_of_lt (by omega)]
      omega
    rw [high, sticky, if_neg (Nat.lt_asymm more), if_pos more]
    rfl

/-! ## Rounding -/

/-- The exponent that a number gets by rounding. -/
def settledExponent (mantissa : Nat) (exponent : Int) : Int :=
  max (mantissa.log2 + 1 + exponent - 53) (-1074)

theorem targetExponent_eq (mantissa : Nat) (exponent : Int) :
    Format.binary64.targetExponent (totalExponent mantissa exponent)
      = settledExponent mantissa exponent :=
  rfl

/-- Rounding shifts a significand to its settled exponent, rounds it, and shifts it once more
if it has become too long. -/
theorem roundWithAccuracy_eq (sign : Sign)
    (unsettled : exponent ≤ settledExponent mantissa exponent) :
    roundWithAccuracy Format.binary64 sign mantissa exponent .exact
      = let target := settledExponent mantissa exponent
        let whole := roundHalfEven mantissa (twoTo (target - exponent).toNat)
        let carry := (settledExponent whole target - target).toNat
        if zero : whole / twoTo carry = 0 then .zero sign
        else .finite sign (whole / twoTo carry) (target + carry) (Nat.pos_of_ne_zero zero) := by
  have reached : exponent + (settledExponent mantissa exponent - exponent).toNat
      = settledExponent mantissa exponent := by
    omega
  unfold roundWithAccuracy shiftToTargetExponent shiftToExponent
  simp only [targetExponent_eq, ExtendedMantissa.ofMantissaAndAccuracy, reached,
    roundedMantissa_shiftRight, mantissa_shiftRight]

/-- The leading bit moves down by as many places as a number is divided by. -/
theorem log2_div_twoTo (number places : Nat) :
    (number / twoTo places).log2 = number.log2 - places := by
  rcases Nat.lt_or_ge number (twoTo places) with less | more
  · rw [Nat.div_eq_of_lt less]
    rcases Nat.eq_zero_or_pos number with rfl | positive
    · exact (Nat.zero_sub places).symm
    · have := (log2_lt_iff positive).mpr less
      exact (Nat.sub_eq_zero_of_le (Nat.le_of_lt this)).symm
  · have positive : 0 < number := Nat.lt_of_lt_of_le (twoTo_pos _) more
    have reached : places ≤ number.log2 := (Nat.le_log2 (Nat.ne_of_gt positive)).mpr more
    obtain ⟨lower, upper⟩ := (log2_eq_iff positive).mp rfl
    refine (log2_eq_iff (Nat.div_pos more (twoTo_pos _))).mpr ⟨?_, ?_⟩
    · rw [Nat.le_div_iff_mul_le (twoTo_pos _), ← twoTo_add, Nat.sub_add_cancel reached]
      exact lower
    · rw [Nat.div_lt_iff_lt_mul (twoTo_pos _), ← twoTo_add, Nat.add_right_comm,
        Nat.sub_add_cancel reached]
      exact upper

/-- What rounding makes of a significand is the nearest representable number. -/
theorem nearest_scaled (positive : 0 < mantissa)
    (unsettled : exponent ≤ settledExponent mantissa exponent) :
    nearest (mantissa * twoTo (exponent + 1074).toNat) (twoTo (-(exponent + 1074)).toNat)
      = roundHalfEven mantissa (twoTo (settledExponent mantissa exponent - exponent).toNat)
        * twoTo (settledExponent mantissa exponent + 1074).toNat := by
  have grain : gap (mantissa * twoTo (exponent + 1074).toNat / twoTo (-(exponent + 1074)).toNat)
      = twoTo (settledExponent mantissa exponent + 1074).toNat := by
    rw [gap, log2_div_twoTo, log2_mul_twoTo positive, settledExponent]
    congr 1
    omega
  have places : (-(exponent + 1074)).toNat + (settledExponent mantissa exponent + 1074).toNat
      = (settledExponent mantissa exponent - exponent).toNat + (exponent + 1074).toNat := by
    have : -1074 ≤ settledExponent mantissa exponent := Int.le_max_right _ _
    omega
  rw [nearest, grain, ← twoTo_add, places, twoTo_add, roundHalfEven_mul_right (twoTo_pos _)]

/-- What a significand is rounded to at its settled exponent has 53 bits at most, or is the
first number with 54 bits. It has fewer bits at the least exponent only. -/
theorem roundHalfEven_settled (positive : 0 < mantissa)
    (unsettled : exponent ≤ settledExponent mantissa exponent) :
    roundHalfEven mantissa (twoTo (settledExponent mantissa exponent - exponent).toNat) ≤ twoTo 53
    ∧ (settledExponent mantissa exponent = -1074
      ∨ twoTo 52
        ≤ roundHalfEven mantissa (twoTo (settledExponent mantissa exponent - exponent).toNat)) := by
  obtain ⟨lower, upper⟩ := (log2_eq_iff positive).mp rfl
  have room := twoTo_pos (settledExponent mantissa exponent - exponent).toNat
  constructor
  · refine roundHalfEven_le room ?_
    have above : twoTo (mantissa.log2 + 1)
        ≤ twoTo 53 * twoTo (settledExponent mantissa exponent - exponent).toNat := by
      rw [← twoTo_add]
      refine twoTo_le_twoTo ?_
      have : mantissa.log2 + 1 + exponent - 53 ≤ settledExponent mantissa exponent :=
        Int.le_max_left _ _
      omega
    omega
  · rcases Int.lt_or_le (-1074) (mantissa.log2 + 1 + exponent - 53) with normal | least
    · refine .inr (le_roundHalfEven room ?_)
      have target : settledExponent mantissa exponent = mantissa.log2 + 1 + exponent - 53 :=
        Int.max_eq_left (Int.le_of_lt normal)
      have below : twoTo 52 * twoTo (settledExponent mantissa exponent - exponent).toNat
          ≤ twoTo mantissa.log2 := by
        rw [← twoTo_add]
        exact twoTo_le_twoTo (by omega)
      omega
    · exact .inl (Int.max_eq_right least)

/-- A number of settled bits needs no further shift, unless it has become one bit too long. -/
theorem spells_settled (sign : Sign) {whole : Nat} {target : Int} (few : whole ≤ twoTo 53)
    (least : -1074 ≤ target) (normal : target = -1074 ∨ twoTo 52 ≤ whole) :
    let carry := (settledExponent whole target - target).toNat
    Spells (if zero : whole / twoTo carry = 0 then .zero sign
      else .finite sign (whole / twoTo carry) (target + carry) (Nat.pos_of_ne_zero zero))
      (sign.apply (whole * twoTo (target + 1074).toNat : Nat)) := by
  intro carry
  rcases Nat.eq_zero_or_pos whole with rfl | positive
  · have gone : 0 / twoTo carry = 0 := Nat.zero_div _
    rw [dif_pos gone, Nat.zero_mul]
    cases sign with
    | negative => exact .zero _
    | positive => exact .zero _
  rcases Nat.lt_or_ge whole (twoTo 53) with less | more
  · have unmoved : carry = 0 := by
      have short : whole.log2 < 53 := (log2_lt_iff positive).mpr less
      have : settledExponent whole target ≤ target := Int.max_le.mpr ⟨by omega, least⟩
      omega
    have same : whole / twoTo 0 = whole := Nat.div_one whole
    rw [unmoved, same, dif_neg (Nat.ne_of_gt positive), Int.ofNat_zero, Int.add_zero]
    exact .finite sign positive ⟨less, least, normal⟩
  · obtain rfl : whole = twoTo 53 := Nat.le_antisymm few more
    have moved : carry = 1 := by
      have top : (twoTo 53).log2 = 53 := (log2_eq_iff (twoTo_pos 53)).mpr (by decide)
      have : settledExponent (twoTo 53) target = target + 1 := by
        rw [settledExponent, top]
        omega
      omega
    have halved : twoTo 53 / twoTo 1 = twoTo 52 := by decide
    have nonzero : twoTo 52 ≠ 0 := by decide
    have places : (target + 1 + 1074).toNat = (target + 1074).toNat + 1 := by omega
    have steps : scaled (twoTo 52) (target + 1) = twoTo 53 * twoTo (target + 1074).toNat := by
      rw [scaled, places, ← twoTo_add, ← twoTo_add]
      congr 1
      omega
    rw [moved]
    simp only [halved, dif_neg nonzero, ← steps]
    exact .finite sign _ ⟨by decide, by omega, .inr (Nat.le_refl _)⟩

/-- Rounding gives the nearest representable number in canonical form. -/
theorem spells_roundWithAccuracy (sign : Sign) (positive : 0 < mantissa)
    (unsettled : exponent ≤ settledExponent mantissa exponent) :
    Spells (roundWithAccuracy Format.binary64 sign mantissa exponent .exact)
      (sign.apply (nearest (mantissa * twoTo (exponent + 1074).toNat)
        (twoTo (-(exponent + 1074)).toNat))) := by
  obtain ⟨few, normal⟩ := roundHalfEven_settled positive unsettled
  rw [nearest_scaled positive unsettled, roundWithAccuracy_eq sign unsettled]
  exact spells_settled sign few (Int.le_max_right _ _) normal

/-- A number whose exponent is not below the least one is a whole number of steps, and is
rounded as such. -/
theorem spells_round (sign : Sign) (positive : 0 < mantissa) (least : -1074 ≤ exponent) :
    Spells (UnpackedFloat.round Format.binary64 sign mantissa exponent)
      (sign.apply (nearest (scaled mantissa exponent) 1)) := by
  have target : -1074 ≤ settledExponent mantissa exponent := Int.le_max_right _ _
  rw [UnpackedFloat.round]
  simp only [targetExponent_eq, decreaseExponent, Nat.shiftLeft_eq]
  generalize moved : (exponent - settledExponent mantissa exponent).toNat = places
  have kept : settledExponent (mantissa * twoTo places) (exponent - places)
      = settledExponent mantissa exponent := by
    have place := log2_mul_twoTo positive places
    simp only [settledExponent, place]
    omega
  have unsettled : exponent - places
      ≤ settledExponent (mantissa * twoTo places) (exponent - places) := by
    omega
  have spells := spells_roundWithAccuracy sign (Nat.mul_pos positive (twoTo_pos _)) unsettled
  have whole : twoTo (-(exponent - places + 1074)).toNat = 1 := by
    have : (-(exponent - places + 1074)).toNat = 0 := by omega
    rw [this]
  have same : mantissa * twoTo places * twoTo (exponent - places + 1074).toNat
      = scaled mantissa exponent := by
    rw [scaled, Nat.mul_assoc, ← twoTo_add]
    congr 2
    omega
  rwa [whole, same] at spells

/-- A whole number of significands is rounded as its number of steps is. -/
theorem spells_normalize (zeroSign : Sign) (significand : Int) (least : -1074 ≤ exponent) :
    Spells (UnpackedFloat.normalize Format.binary64 significand exponent zeroSign)
      (rounded (significand * twoTo (exponent + 1074).toNat)) := by
  rw [UnpackedFloat.normalize]
  rcases Int.lt_trichotomy significand 0 with less | rfl | more
  · obtain ⟨size, rfl⟩ : ∃ size : Nat, significand = -size :=
      ⟨significand.natAbs, by omega⟩
    have spells := spells_round .negative (by omega : 0 < size) least
    rw [← rounded_apply] at spells
    rw [Int.compare_eq_lt.mpr less, Int.neg_neg, Int.toNat_natCast, Int.neg_mul]
    exact spells
  · rw [Int.compare_eq_eq.mpr rfl, Int.zero_mul]
    exact .zero zeroSign
  · obtain ⟨size, rfl⟩ : ∃ size : Nat, significand = size := ⟨significand.toNat, by omega⟩
    have spells := spells_round .positive (by omega : 0 < size) least
    rw [← rounded_apply] at spells
    rw [Int.compare_eq_gt.mpr more, Int.toNat_natCast]
    exact spells

/-! ## Sums and differences -/

theorem apply_mul (sign : Sign) (left right : Int) :
    sign.apply left * right = sign.apply (left * right) := by
  cases sign with
  | negative => exact Int.neg_mul left right
  | positive => rfl

theorem apply_neg (sign : Sign) (number : Int) : (-sign).apply number = -sign.apply number := by
  cases sign with
  | negative => exact (Int.neg_neg number).symm
  | positive => rfl

/-- A number keeps its steps when its exponent is decreased. -/
theorem scaled_decreased (mantissa : Nat) {lower : Int} (least : -1074 ≤ lower)
    (ordered : lower ≤ exponent) :
    mantissa <<< (exponent - lower).toNat * twoTo (lower + 1074).toNat
      = scaled mantissa exponent := by
  rw [Nat.shiftLeft_eq, scaled, Nat.mul_assoc]
  show mantissa * (twoTo (exponent - lower).toNat * twoTo (lower + 1074).toNat) = _
  rw [← twoTo_add]
  congr 2
  omega

/-- The sum of two numbers is their exact sum, rounded. -/
theorem Spells.add (spells : Spells left steps) (spells' : Spells right steps') :
    Spells (UnpackedFloat.add Format.binary64 left right) (rounded (steps + steps')) := by
  cases spells with
  | zero sign =>
    cases spells' with
    | zero sign' =>
      rw [UnpackedFloat.add]
      split
      · exact .zero _
      · exact .zero _
    | finite sign' positive' canonical' =>
      have spells' := Spells.finite sign' positive' canonical'
      rw [Int.zero_add, spells'.rounded_eq]
      exact spells'
  | @finite sign mantissa exponent positive canonical =>
    cases spells' with
    | zero sign' =>
      have spells := Spells.finite sign positive canonical
      rw [Int.add_zero, spells.rounded_eq]
      exact spells
    | @finite sign' mantissa' exponent' positive' canonical' =>
      have least : -1074 ≤ min exponent exponent' :=
        Int.le_min.mpr ⟨canonical.least, canonical'.least⟩
      have sum := spells_normalize .positive
        (sign.apply (mantissa <<< (exponent - min exponent exponent').toNat : Nat)
          + sign'.apply (mantissa' <<< (exponent' - min exponent exponent').toNat : Nat)) least
      rw [Int.add_mul, apply_mul, apply_mul, ← Int.natCast_mul, ← Int.natCast_mul,
        scaled_decreased _ least (Int.min_le_left _ _),
        scaled_decreased _ least (Int.min_le_right _ _)] at sum
      exact sum

theorem Spells.neg (spells : Spells number steps) : Spells number.neg (-steps) := by
  cases spells with
  | zero sign => exact .zero _
  | finite sign positive canonical =>
    rw [← apply_neg]
    exact .finite _ positive canonical

/-- Subtracting is adding with the other sign. -/
theorem sub_eq_add_neg (left right : UnpackedFloat) :
    UnpackedFloat.sub Format.binary64 left right
      = UnpackedFloat.add Format.binary64 left right.neg := by
  cases left with
  | notANumber => rfl
  | infinity sign => cases right <;> rfl
  | zero sign => cases right <;> rfl
  | finite sign mantissa exponent positive =>
    cases right with
    | notANumber => rfl
    | infinity sign' => rfl
    | zero sign' => rfl
    | finite sign' mantissa' exponent' positive' =>
      rw [UnpackedFloat.sub, UnpackedFloat.neg, UnpackedFloat.add]
      simp only [apply_neg, Int.sub_eq_add_neg]

/-- The difference of two numbers is their exact difference, rounded. -/
theorem Spells.sub (spells : Spells left steps) (spells' : Spells right steps') :
    Spells (UnpackedFloat.sub Format.binary64 left right) (rounded (steps - steps')) := by
  rw [sub_eq_add_neg, Int.sub_eq_add_neg]
  exact spells.add spells'.neg

/-! ## Products -/

theorem apply_mul_apply (sign sign' : Sign) (size size' : Nat) :
    sign.apply size * sign'.apply size' = (sign * sign').apply (size * size' : Nat) := by
  cases sign with
  | negative =>
    cases sign' with
    | negative => exact Int.neg_mul_neg _ _
    | positive => exact Int.neg_mul _ _
  | positive =>
    cases sign' with
    | negative => exact Int.mul_neg _ _
    | positive => rfl

/-- The number of steps that is nearest to the product of two numbers of steps. -/
def roundedProduct (steps steps' : Int) : Int :=
  (steps * steps').sign * nearest (steps * steps').natAbs stepsPerUnit

theorem roundedProduct_zero_left (steps : Int) : roundedProduct 0 steps = 0 := by
  rw [roundedProduct, Int.zero_mul, Int.sign_zero, Int.zero_mul]

theorem roundedProduct_zero_right (steps : Int) : roundedProduct steps 0 = 0 := by
  rw [roundedProduct, Int.mul_zero, Int.sign_zero, Int.zero_mul]

theorem roundedProduct_apply (sign : Sign) {size : Nat} (positive : 0 < size)
    (product : steps * steps' = sign.apply size) :
    roundedProduct steps steps' = sign.apply (nearest size stepsPerUnit) := by
  rw [roundedProduct, product, natAbs_apply]
  cases sign with
  | negative =>
    show (-(size : Int)).sign * _ = -_
    rw [Int.sign_neg, Int.sign_eq_one_of_pos (Int.natCast_pos.mpr positive), Int.neg_mul,
      Int.one_mul]
  | positive =>
    show (size : Int).sign * _ = _
    rw [Int.sign_eq_one_of_pos (Int.natCast_pos.mpr positive), Int.one_mul]
    rfl

/-- The product of two canonical significands has enough bits to be rounded at once. -/
theorem Canonical.mul_unsettled {mantissa' : Nat} {exponent' : Int}
    (canonical : Canonical mantissa exponent) (canonical' : Canonical mantissa' exponent')
    (positive : 0 < mantissa) (positive' : 0 < mantissa') :
    exponent + exponent' ≤ settledExponent (mantissa * mantissa') (exponent + exponent') := by
  have product : mantissa * mantissa' ≠ 0 := Nat.ne_of_gt (Nat.mul_pos positive positive')
  have long (normal : twoTo 52 ≤ mantissa ∨ twoTo 52 ≤ mantissa') :
      52 ≤ (mantissa * mantissa').log2 := by
    refine (Nat.le_log2 product).mpr ?_
    rcases normal with first | second
    · exact Nat.le_trans first (Nat.le_mul_of_pos_right _ positive')
    · exact Nat.le_trans second (Nat.le_mul_of_pos_left _ positive)
  rw [settledExponent]
  rcases canonical.normal with least | normal
  · rcases canonical'.normal with least' | normal'
    · omega
    · have := long (.inr normal')
      omega
  · have := long (.inl normal)
    omega

/-- The steps of a product are those of its factors over the steps of one. -/
theorem nearest_product {mantissa' : Nat} {exponent' : Int}
    (least : -1074 ≤ exponent) (least' : -1074 ≤ exponent') :
    nearest (mantissa * mantissa' * twoTo (exponent + exponent' + 1074).toNat)
        (twoTo (-(exponent + exponent' + 1074)).toNat)
      = nearest (scaled mantissa exponent * scaled mantissa' exponent') stepsPerUnit := by
  have factor := nearest_mul_right
    (mantissa * mantissa' * twoTo (exponent + exponent' + 1074).toNat)
    (twoTo (-(exponent + exponent' + 1074)).toNat)
    (twoTo_pos (1074 - (-(exponent + exponent' + 1074)).toNat))
  have top : mantissa * mantissa' * twoTo (exponent + exponent' + 1074).toNat
      * twoTo (1074 - (-(exponent + exponent' + 1074)).toNat)
      = scaled mantissa exponent * scaled mantissa' exponent' := by
    rw [scaled, scaled, Nat.mul_mul_mul_comm, ← twoTo_add, Nat.mul_assoc, ← twoTo_add]
    congr 2
    omega
  have places : (-(exponent + exponent' + 1074)).toNat
      + (1074 - (-(exponent + exponent' + 1074)).toNat) = 1074 := by
    omega
  have bottom : twoTo (-(exponent + exponent' + 1074)).toNat
      * twoTo (1074 - (-(exponent + exponent' + 1074)).toNat) = stepsPerUnit :=
    (twoTo_add _ _).symm.trans (twoTo_eq_stepsPerUnit places)
  rw [← factor, top, bottom]

/-- The product of two numbers is their exact product, rounded. -/
theorem Spells.mul (spells : Spells left steps) (spells' : Spells right steps') :
    Spells (UnpackedFloat.mul Format.binary64 left right) (roundedProduct steps steps') := by
  cases spells with
  | zero sign =>
    rw [roundedProduct_zero_left]
    cases spells' with
    | zero sign' => exact .zero _
    | finite sign' positive' canonical' => exact .zero _
  | @finite sign mantissa exponent positive canonical =>
    cases spells' with
    | zero sign' =>
      rw [roundedProduct_zero_right]
      exact .zero _
    | @finite sign' mantissa' exponent' positive' canonical' =>
      have product := spells_roundWithAccuracy (sign * sign') (Nat.mul_pos positive positive')
        (canonical.mul_unsettled canonical' positive positive')
      rw [nearest_product canonical.least canonical'.least, ← roundedProduct_apply (sign * sign')
        (Nat.mul_pos (scaled_pos positive) (scaled_pos positive'))
        (apply_mul_apply sign sign' _ _)] at product
      exact product

theorem Spells.abs (spells : Spells number steps) : Spells number.abs steps.natAbs := by
  cases spells with
  | zero sign => exact .zero _
  | finite sign positive canonical =>
    rw [natAbs_apply]
    exact .finite .positive positive canonical

/-! ## Words -/

/-- A word is so many times the steps of one, rounded. -/
theorem spells_ofNat (number : Nat) :
    Spells (UnpackedFloat.ofNat Format.binary64 number)
      (nearest (number * stepsPerUnit) 1 : Nat) := by
  have spells := spells_normalize .positive (number : Int) (by decide : -1074 ≤ (0 : Int))
  have unit := twoTo_eq_stepsPerUnit (by decide : (0 + 1074 : Int).toNat = 1074)
  rw [unit, ← Int.natCast_mul, rounded_natCast] at spells
  exact spells

/-! ## Doubles -/

variable {first second : Float}

theorem IsSteps.add (isSteps : IsSteps first steps) (isSteps' : IsSteps second steps')
    (small : nearest (steps + steps').natAbs 1 < overflowSteps) :
    IsSteps (first + second) (rounded (steps + steps')) :=
  ((isSteps_iff.mp isSteps).add (isSteps_iff.mp isSteps')).isSteps (by rwa [natAbs_rounded])

theorem IsSteps.sub (isSteps : IsSteps first steps) (isSteps' : IsSteps second steps')
    (small : nearest (steps - steps').natAbs 1 < overflowSteps) :
    IsSteps (first - second) (rounded (steps - steps')) :=
  ((isSteps_iff.mp isSteps).sub (isSteps_iff.mp isSteps')).isSteps (by rwa [natAbs_rounded])

theorem IsSteps.mul (isSteps : IsSteps first steps) (isSteps' : IsSteps second steps')
    (small : (roundedProduct steps steps').natAbs < overflowSteps) :
    IsSteps (first * second) (roundedProduct steps steps') :=
  ((isSteps_iff.mp isSteps).mul (isSteps_iff.mp isSteps')).isSteps small

/-- A product that is finite was not too large. -/
theorem IsSteps.mul_of_isFinite (isSteps : IsSteps first steps) (isSteps' : IsSteps second steps')
    (finite : (first * second).isFinite = true) :
    IsSteps (first * second) (roundedProduct steps steps') :=
  isSteps.mul isSteps'
    (((isSteps_iff.mp isSteps).mul (isSteps_iff.mp isSteps')).lt_overflowSteps finite)

/-- The size of a double is rounded to itself. -/
theorem IsSteps.nearest_eq {size : Nat} (isSteps : IsSteps first size) : nearest size 1 = size :=
  nearest_one isSteps.representable.gap_dvd

/-- Doubles that are not negative add up to what is nearest to their sum. -/
theorem IsSteps.add_natCast {size size' : Nat} (isSteps : IsSteps first size)
    (isSteps' : IsSteps second size') (small : 2 * (size + size') ≤ overflowSteps) :
    IsSteps (first + second) (nearest (size + size') 1) := by
  have sum := isSteps.add isSteps' (nearest_lt_overflowSteps Nat.one_pos (by omega))
  rwa [← Int.natCast_add, rounded_natCast] at sum

/-- A double less a smaller one is what is nearest to their difference. -/
theorem IsSteps.sub_natCast {size size' : Nat} (isSteps : IsSteps first size)
    (isSteps' : IsSteps second size') (ordered : size' ≤ size)
    (small : 2 * size ≤ overflowSteps) :
    IsSteps (first - second) (nearest (size - size') 1) := by
  have difference := isSteps.sub isSteps' (nearest_lt_overflowSteps Nat.one_pos (by omega))
  rwa [← Int.natCast_sub ordered, rounded_natCast] at difference

theorem roundedProduct_natCast (size size' : Nat) :
    roundedProduct size size' = nearest (size * size') stepsPerUnit := by
  rw [roundedProduct, ← Int.natCast_mul, Int.natAbs_natCast]
  rcases Nat.eq_zero_or_pos (size * size') with zero | positive
  · rw [zero, nearest_zero stepsPerUnit_pos, Int.ofNat_zero, Int.sign_zero, Int.zero_mul]
  · rw [Int.sign_eq_one_of_pos (Int.natCast_pos.mpr positive), Int.one_mul]

/-- The product of doubles that are not negative is what is nearest to their product. -/
theorem IsSteps.mul_natCast {size size' : Nat} (isSteps : IsSteps first size)
    (isSteps' : IsSteps second size')
    (small : nearest (size * size') stepsPerUnit < overflowSteps) :
    IsSteps (first * second) (nearest (size * size') stepsPerUnit) := by
  rw [← roundedProduct_natCast]
  refine isSteps.mul isSteps' ?_
  rwa [roundedProduct_natCast, Int.natAbs_natCast]

/-- A part of a number of steps is not rounded to more than the number. -/
theorem IsSteps.nearest_share_le {size share : Nat} (isSteps : IsSteps first size)
    (part : share ≤ stepsPerUnit) : nearest (size * share) stepsPerUnit ≤ size :=
  nearest_le_of_le stepsPerUnit_pos isSteps.representable.gap_dvd (Nat.mul_le_mul_left _ part)

/-- A part of a double is what is nearest to that part. -/
theorem IsSteps.mul_share {size share : Nat} (isSteps : IsSteps first size)
    (isSteps' : IsSteps second share) (part : share ≤ stepsPerUnit) :
    IsSteps (first * second) (nearest (size * share) stepsPerUnit) :=
  isSteps.mul_natCast isSteps'
    (Nat.lt_of_le_of_lt (isSteps.nearest_share_le part) isSteps.representable.lt_overflow)

theorem IsSteps.abs (isSteps : IsSteps first steps) : IsSteps first.abs steps.natAbs :=
  (isSteps_iff.mp isSteps).abs.isSteps (by
    rw [Int.natAbs_natCast]
    exact isSteps.representable.lt_overflow)

/-- Words are far from what is too large. -/
theorem eight_words_le : 8 * (twoTo 64 * stepsPerUnit) ≤ overflowSteps := by
  obtain ⟨places, same⟩ : ∃ places, places = 1074 := ⟨_, rfl⟩
  rw [← twoTo_eq_stepsPerUnit same, ← twoTo_add]
  exact Nat.le_trans (Nat.le_of_eq (twoTo_add 3 (64 + places)).symm)
    (Nat.le_of_lt (twoTo_lt_overflowSteps (by omega)))

/-- A word becomes the nearest double. -/
theorem isSteps_toFloat (word : UInt64) :
    IsSteps word.toFloat (nearest (word.toNat * stepsPerUnit) 1 : Nat) := by
  refine (spells_ofNat word.toNat).isSteps ?_
  have bound := eight_words_le
  have below : word.toNat * stepsPerUnit ≤ twoTo 64 * stepsPerUnit :=
    Nat.mul_le_mul_right _ (Nat.le_of_lt word.toNat_lt)
  rw [Int.natAbs_natCast]
  exact nearest_lt_overflowSteps Nat.one_pos (by omega)

/-- The whole part of a number is the number of its units. -/
theorem Spells.toInt_eq {size : Nat} (spells : Spells number size) (low high : Int) :
    number.toInt low high = (size / stepsPerUnit : Nat) := by
  generalize same : (size : Int) = steps at spells
  cases spells with
  | zero sign =>
    obtain rfl : size = 0 := by omega
    rw [Nat.zero_div]
    rfl
  | @finite sign mantissa exponent positive canonical =>
    have above : 0 < scaled mantissa exponent := scaled_pos positive
    cases sign with
    | negative =>
      have below : (size : Int) = -(scaled mantissa exponent : Int) := same
      omega
    | positive =>
      obtain rfl : size = scaled mantissa exponent := Int.ofNat.inj same
      have least := canonical.least
      have places : (0 - (exponent - exponent.toNat)).toNat
          + (1074 - (0 - (exponent - exponent.toNat)).toNat) = 1074 := by
        omega
      have cut : mantissa * twoTo exponent.toNat / twoTo (0 - (exponent - exponent.toNat)).toNat
          = scaled mantissa exponent / stepsPerUnit := by
        rw [← Nat.mul_div_mul_right _ _ (twoTo_pos (1074 - (0 - (exponent - exponent.toNat)).toNat)),
          ← twoTo_add, twoTo_eq_stepsPerUnit places, Nat.mul_assoc, ← twoTo_add, scaled]
        congr 3
        omega
      rw [UnpackedFloat.toInt, roundToInt]
      simp only [decreaseExponent, shiftToExponent, ExtendedMantissa.ofMantissaAndAccuracy,
        mantissa_shiftRight, Int.sub_zero, Nat.shiftLeft_eq]
      exact congrArg Nat.cast cut

/-- Cutting off the fraction of a double leaves the number of its units, as far as there are
words for it. -/
theorem IsSteps.toNat_toUInt64 {size : Nat} (isSteps : IsSteps first size) :
    first.toUInt64.toNat = min (size / stepsPerUnit) (twoTo 64 - 1) := by
  have cut : first.toUInt64 = UInt64.ofNatClamp (size / stepsPerUnit) := by
    show UInt64.ofNatClamp (first.toModel.unpack.toInt 0 _).toNat = _
    rw [(isSteps_iff.mp isSteps).toInt_eq, Int.toNat_natCast]
  have wordSize : UInt64.size = twoTo 64 := rfl
  rw [cut, UInt64.ofNatClamp]
  generalize size / stepsPerUnit = units
  split
  case isTrue fits =>
    rw [UInt64.toNat_ofNatLT]
    omega
  case isFalse large =>
    rw [UInt64.toNat_ofNatLT]
    omega

/-! ## Whole numbers -/

/-- A double that is a whole number and not negative. -/
def IsNumber (value : Float) (number : Nat) : Prop :=
  IsSteps value (number * stepsPerUnit : Nat)

/-- A number of units that 53 bits can count is representable as far as its bits go. -/
theorem gap_dvd_units {number : Nat} (few : number ≤ twoTo 53) :
    gap (number * stepsPerUnit) ∣ number * stepsPerUnit := by
  obtain ⟨places, same⟩ : ∃ places, places = 1074 := ⟨_, rfl⟩
  rw [← twoTo_eq_stepsPerUnit same]
  exact gap_dvd_of_le few places

/-- A double is one number at most. -/
theorem IsNumber.unique {number number' : Nat} (isNumber : IsNumber first number)
    (isNumber' : IsNumber first number') : number = number' :=
  Nat.eq_of_mul_eq_mul_right stepsPerUnit_pos
    (Int.ofNat.inj (isNumber.exact.symm.trans isNumber'.exact))

theorem IsNumber.le_iff {number number' : Nat} (isNumber : IsNumber first number)
    (isNumber' : IsNumber second number') : first ≤ second ↔ number ≤ number' := by
  rw [IsSteps.le_iff isNumber isNumber', Int.ofNat_le, Nat.mul_le_mul_right_iff stepsPerUnit_pos]

/-- A finite double that is not negative is whole if it is a number. -/
theorem isWhole_iff (finite : first.isFinite = true) (nonneg : 0 ≤ exactSteps first) :
    isWhole first = true ↔ ∃ number, IsNumber first number := by
  obtain ⟨steps, sized⟩ := exists_size_of_isFinite finite
  have spelled : exactSteps first = steps := by
    rw [exactSteps_of_size sized] at nonneg ⊢
    split
    case isTrue negative =>
      rw [if_pos negative] at nonneg
      omega
    case isFalse => rfl
  rw [isWhole, sized]
  constructor
  · intro whole
    have cut := Nat.div_mul_cancel (Nat.dvd_of_mod_eq_zero (beq_iff_eq.mp whole))
    exact ⟨steps / stepsPerUnit, finite, by rw [spelled, cut]⟩
  · rintro ⟨number, -, exact⟩
    have counted : steps = number * stepsPerUnit := Int.ofNat.inj (spelled.symm.trans exact)
    rw [counted]
    exact beq_iff_eq.mpr (Nat.mul_mod_left _ _)

/-- Cutting off the fraction of a whole number leaves it as it is, as far as there are words. -/
theorem IsNumber.toNat_toUInt64 {number : Nat} (isNumber : IsNumber first number) :
    first.toUInt64.toNat = min number (twoTo 64 - 1) := by
  rw [IsSteps.toNat_toUInt64 isNumber, Nat.mul_div_cancel _ stepsPerUnit_pos]

end DeltaStudy.Numeral
