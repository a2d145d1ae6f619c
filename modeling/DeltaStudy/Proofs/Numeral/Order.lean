import DeltaStudy.Proofs.Numeral.Arithmetic

/-!
# The order of doubles

Doubles that are numbers, infinities among them, are compared as their ranks are. The rank
of a finite double is its number of steps, and that of an infinity is the first number of steps that
is too large, on either side of zero. So the order is total up to the two zeros, and what
is not a number stands outside of it.

Sums and differences of finite doubles are rounded and then cut off at the ranks of the
infinities. Both keep the order, so adding what is not negative never leads down.
-/

namespace DeltaStudy.Numeral

open Float.Model Float.Model.UnpackedFloat

variable {steps steps' rank rank' : Int} {number left right : UnpackedFloat}

/-! ## Ranks -/

/-- The place of an unpacked number in the order. -/
inductive Ranks : UnpackedFloat → Int → Prop
  | finite {number : UnpackedFloat} {steps : Int} (spells : Spells number steps)
    (small : steps.natAbs < overflowSteps) : Ranks number steps
  | infinity (sign : Sign) : Ranks (.infinity sign) (sign.apply overflowSteps)

/-- A finite number and an infinity compare as their ranks do. -/
theorem Spells.compare_infinity (spells : Spells number steps)
    (small : steps.natAbs < overflowSteps) (sign : Sign) :
    number.compare (.infinity sign) = some (compare steps (sign.apply overflowSteps))
    ∧ (UnpackedFloat.infinity sign).compare number
      = some (compare (sign.apply overflowSteps) steps) := by
  cases sign with
  | negative =>
    have above : Sign.negative.apply overflowSteps < steps := by
      show -(overflowSteps : Int) < steps
      omega
    rw [Int.compare_eq_gt.mpr above, Int.compare_eq_lt.mpr above]
    cases spells with
    | zero => exact ⟨rfl, rfl⟩
    | finite => exact ⟨rfl, rfl⟩
  | positive =>
    have below : steps < Sign.positive.apply overflowSteps := by
      show steps < (overflowSteps : Int)
      omega
    rw [Int.compare_eq_lt.mpr below, Int.compare_eq_gt.mpr below]
    cases spells with
    | zero => exact ⟨rfl, rfl⟩
    | finite => exact ⟨rfl, rfl⟩

theorem overflowSteps_pos : 0 < overflowSteps :=
  Nat.lt_of_le_of_lt (Nat.zero_le _) (twoTo_lt_overflowSteps (by decide : 0 < 2098))

/-- Infinities compare as their ranks do. -/
theorem compare_infinities (sign sign' : Sign) :
    (UnpackedFloat.infinity sign).compare (.infinity sign')
      = some (compare (sign.apply overflowSteps) (sign'.apply overflowSteps)) := by
  have positive := overflowSteps_pos
  have apart : -(overflowSteps : Int) < overflowSteps := by omega
  cases sign with
  | negative =>
    cases sign' with
    | negative => exact congrArg some (Int.compare_eq_eq.mpr rfl).symm
    | positive => exact congrArg some (Int.compare_eq_lt.mpr apart).symm
  | positive =>
    cases sign' with
    | negative => exact congrArg some (Int.compare_eq_gt.mpr apart).symm
    | positive => exact congrArg some (Int.compare_eq_eq.mpr rfl).symm

/-- Numbers are compared as their ranks are. -/
theorem Ranks.compare_eq (ranks : Ranks left rank) (ranks' : Ranks right rank') :
    left.compare right = some (compare rank rank') := by
  cases ranks with
  | finite spells small =>
    cases ranks' with
    | finite spells' _ => exact spells.compare_eq spells'
    | infinity sign' => exact (spells.compare_infinity small sign').1
  | infinity sign =>
    cases ranks' with
    | finite spells' small' => exact (spells'.compare_infinity small' sign).2
    | infinity sign' => exact compare_infinities sign sign'

/-! ## Doubles in their order -/

/-- A double that has a place in the order. -/
def Ranked (value : Float) (rank : Int) : Prop :=
  Ranks value.toModel.unpack rank

variable {first second third : Float}

theorem IsSteps.ranked (isSteps : IsSteps first steps) : Ranked first steps :=
  .finite (isSteps_iff.mp isSteps) isSteps.representable.lt_overflow

/-- A number has a place in the order. -/
theorem exists_ranked (isNumber : first.isNaN = false) : ∃ rank, Ranked first rank := by
  by_cases finite : first.isFinite = true
  · exact ⟨_, (IsSteps.mk finite rfl).ranked⟩
  · have notNaN : first.toModel.unpack.isNaN = false := isNumber
    have notFinite : ¬ first.toModel.unpack.isFinite = true := finite
    show ∃ rank, Ranks first.toModel.unpack rank
    generalize first.toModel.unpack = number at notNaN notFinite
    cases number with
    | notANumber => cases notNaN
    | infinity sign => exact ⟨_, .infinity sign⟩
    | zero sign => exact absurd rfl notFinite
    | finite sign mantissa exponent positive => exact absurd rfl notFinite

/-- What has a place in the order is a finite double or an infinity. -/
theorem Ranked.isSteps_or_infinity (ranked : Ranked first rank) :
    IsSteps first rank
    ∨ ∃ sign, first.toModel.unpack = .infinity sign ∧ rank = sign.apply overflowSteps := by
  have ranks : Ranks first.toModel.unpack rank := ranked
  generalize unpacked : first.toModel.unpack = number at ranks
  cases ranks with
  | finite spells _ => exact .inl (isSteps_iff.mpr (unpacked ▸ spells))
  | infinity sign => exact .inr ⟨sign, rfl, rfl⟩

theorem Ranked.isNaN_eq (ranked : Ranked first rank) : first.isNaN = false := by
  rcases ranked.isSteps_or_infinity with isSteps | ⟨sign, unpacked, -⟩
  · have spells := isSteps_iff.mp isSteps
    show first.toModel.unpack.isNaN = false
    generalize first.toModel.unpack = number at spells
    cases spells with
    | zero => rfl
    | finite => rfl
  · show first.toModel.unpack.isNaN = false
    rw [unpacked]
    rfl

theorem Ranked.lt_iff (ranked : Ranked first rank) (ranked' : Ranked second rank') :
    first < second ↔ rank < rank' := by
  rw [lt_iff_compare, ranked.compare_eq ranked', Option.some.injEq, Int.compare_eq_lt]

theorem Ranked.le_iff (ranked : Ranked first rank) (ranked' : Ranked second rank') :
    first ≤ second ↔ rank ≤ rank' := by
  rw [le_iff_compare, ranked.compare_eq ranked']
  exact Int.isLE_compare

theorem Ranked.beq_iff (ranked : Ranked first rank) (ranked' : Ranked second rank') :
    (first == second) = true ↔ rank = rank' := by
  rw [beq_iff_compare, ranked.compare_eq ranked', Option.some.injEq, Int.compare_eq_eq]

/-- A finite double is a number. -/
theorem isNaN_eq_of_isFinite (finite : first.isFinite = true) : first.isNaN = false :=
  (IsSteps.mk finite rfl).ranked.isNaN_eq

theorem isInf_iff : first.isInf = true ↔ ∃ sign, first.toModel.unpack = .infinity sign := by
  show first.toModel.unpack.isInf = true ↔ _
  cases first.toModel.unpack with
  | infinity sign => exact ⟨fun _ => ⟨sign, rfl⟩, fun _ => rfl⟩
  | notANumber => exact ⟨nofun, nofun⟩
  | zero => exact ⟨nofun, nofun⟩
  | finite => exact ⟨nofun, nofun⟩

/-- An infinite double is a number with the rank of its infinity. -/
theorem exists_ranked_of_isInf (infinite : first.isInf = true) :
    ∃ sign : Sign, Ranked first (sign.apply overflowSteps) := by
  obtain ⟨sign, unpacked⟩ := isInf_iff.mp infinite
  refine ⟨sign, ?_⟩
  rw [Ranked, unpacked]
  exact .infinity sign

/-- A number that is not infinite is finite. -/
theorem isFinite_of_isInf_eq (isNumber : first.isNaN = false) (bounded : first.isInf = false) :
    first.isFinite = true := by
  obtain ⟨rank, ranked⟩ := exists_ranked isNumber
  rcases ranked.isSteps_or_infinity with isSteps | ⟨sign, infinite, -⟩
  · exact isSteps.finite
  · rw [isInf_iff.mpr ⟨sign, infinite⟩] at bounded
    cases bounded

/-- What is not a number compares with nothing. -/
theorem compare_eq_none_of_isNaN (isNaN : first.isNaN = true ∨ second.isNaN = true) :
    first.toModel.unpack.compare second.toModel.unpack = none := by
  have unpacked : first.toModel.unpack.isNaN = true ∨ second.toModel.unpack.isNaN = true := isNaN
  generalize first.toModel.unpack = left at *
  generalize second.toModel.unpack = right at *
  rcases unpacked with unpacked | unpacked
  · cases left with
    | notANumber => rfl
    | infinity => cases unpacked
    | zero => cases unpacked
    | finite => cases unpacked
  · cases right with
    | notANumber => cases left <;> rfl
    | infinity => cases unpacked
    | zero => cases unpacked
    | finite => cases unpacked

/-- What can be compared are numbers. -/
theorem exists_ranked_of_compare {ordering : Ordering}
    (compared : first.toModel.unpack.compare second.toModel.unpack = some ordering) :
    (∃ rank, Ranked first rank) ∧ ∃ rank', Ranked second rank' := by
  have numbers : first.isNaN = false ∧ second.isNaN = false := by
    by_contra isNaN
    rw [compare_eq_none_of_isNaN] at compared
    · cases compared
    · by_contra neither
      simp only [not_or, Bool.not_eq_true] at neither
      exact isNaN neither
  exact ⟨exists_ranked numbers.1, exists_ranked numbers.2⟩

theorem exists_ranked_of_le (ordered : first ≤ second) :
    (∃ rank, Ranked first rank) ∧ ∃ rank', Ranked second rank' := by
  rw [le_iff_compare] at ordered
  obtain ⟨ordering, compared, -⟩ := Option.any_eq_true _ _ |>.mp ordered
  exact exists_ranked_of_compare compared

theorem exists_ranked_of_lt (less : first < second) :
    (∃ rank, Ranked first rank) ∧ ∃ rank', Ranked second rank' :=
  exists_ranked_of_compare ((lt_iff_compare _ _).mp less)

theorem exists_ranked_of_beq (equal : (first == second) = true) :
    (∃ rank, Ranked first rank) ∧ ∃ rank', Ranked second rank' :=
  exists_ranked_of_compare ((beq_iff_compare _ _).mp equal)

/-! ## The order -/

/-- A number is not above itself. -/
theorem Double.le_refl (isNumber : first.isNaN = false) : first ≤ first := by
  obtain ⟨rank, ranked⟩ := exists_ranked isNumber
  exact (ranked.le_iff ranked).mpr (Int.le_refl rank)

theorem Double.le_of_lt (less : first < second) : first ≤ second := by
  obtain ⟨⟨rank, ranked⟩, rank', ranked'⟩ := exists_ranked_of_lt less
  exact (ranked.le_iff ranked').mpr (Int.le_of_lt ((ranked.lt_iff ranked').mp less))

/-- Numbers of which the one is not below the other are the other way round. -/
theorem Double.le_of_not_lt (isNumber : first.isNaN = false) (isNumber' : second.isNaN = false)
    (notLess : ¬ first < second) : second ≤ first := by
  obtain ⟨rank, ranked⟩ := exists_ranked isNumber
  obtain ⟨rank', ranked'⟩ := exists_ranked isNumber'
  rw [ranked.lt_iff ranked', Int.not_lt] at notLess
  exact (ranked'.le_iff ranked).mpr notLess

theorem Double.le_trans (ordered : first ≤ second) (ordered' : second ≤ third) :
    first ≤ third := by
  obtain ⟨⟨rank, ranked⟩, rank', ranked'⟩ := exists_ranked_of_le ordered
  obtain ⟨-, rank'', ranked''⟩ := exists_ranked_of_le ordered'
  exact (ranked.le_iff ranked'').mpr
    (Int.le_trans ((ranked.le_iff ranked').mp ordered) ((ranked'.le_iff ranked'').mp ordered'))

theorem Double.lt_of_lt_of_le (less : first < second) (ordered : second ≤ third) :
    first < third := by
  obtain ⟨⟨rank, ranked⟩, rank', ranked'⟩ := exists_ranked_of_lt less
  obtain ⟨-, rank'', ranked''⟩ := exists_ranked_of_le ordered
  exact (ranked.lt_iff ranked'').mpr
    (Int.lt_of_lt_of_le ((ranked.lt_iff ranked').mp less) ((ranked'.le_iff ranked'').mp ordered))

theorem Double.lt_of_le_of_lt (ordered : first ≤ second) (less : second < third) :
    first < third := by
  obtain ⟨⟨rank, ranked⟩, rank', ranked'⟩ := exists_ranked_of_le ordered
  obtain ⟨-, rank'', ranked''⟩ := exists_ranked_of_lt less
  exact (ranked.lt_iff ranked'').mpr
    (Int.lt_of_le_of_lt ((ranked.le_iff ranked').mp ordered) ((ranked'.lt_iff ranked'').mp less))

/-- An infinity that is not negative is the positive one. -/
theorem eq_positive_of_nonneg {sign : Sign} (nonneg : 0 ≤ sign.apply overflowSteps) :
    sign = .positive := by
  cases sign with
  | negative =>
    have positive := overflowSteps_pos
    have below : 0 ≤ -(overflowSteps : Int) := nonneg
    omega
  | positive => rfl

/-- Nothing finite is above an infinity that is not negative. -/
theorem isFinite_eq_of_isInf_le (infinite : first.isInf = true) (nonneg : ¬ first < 0)
    (above : first ≤ second) : second.isFinite = false := by
  obtain ⟨sign, ranked⟩ := exists_ranked_of_isInf infinite
  rw [ranked.lt_iff isSteps_zero.ranked, Int.not_lt] at nonneg
  obtain rfl := eq_positive_of_nonneg nonneg
  refine Bool.eq_false_iff.mpr fun finite => ?_
  have steps : IsSteps second (exactSteps second) := ⟨finite, rfl⟩
  have small := steps.representable.lt_overflow
  have top : (overflowSteps : Int) ≤ exactSteps second := (ranked.le_iff steps.ranked).mp above
  omega

/-! ## Equality of doubles -/

/-- A double equals itself if it is a number. -/
theorem Double.beq_refl (isNumber : first.isNaN = false) : (first == first) = true := by
  obtain ⟨rank, ranked⟩ := exists_ranked isNumber
  exact (ranked.beq_iff ranked).mpr rfl

theorem Double.beq_symm (equal : (first == second) = true) : (second == first) = true := by
  obtain ⟨⟨rank, ranked⟩, rank', ranked'⟩ := exists_ranked_of_beq equal
  exact (ranked'.beq_iff ranked).mpr ((ranked.beq_iff ranked').mp equal).symm

theorem Double.beq_comm (first second : Float) : (first == second) = (second == first) :=
  Bool.eq_iff_iff.mpr ⟨beq_symm, beq_symm⟩

theorem Double.beq_trans (equal : (first == second) = true) (equal' : (second == third) = true) :
    (first == third) = true := by
  obtain ⟨⟨rank, ranked⟩, rank', ranked'⟩ := exists_ranked_of_beq equal
  obtain ⟨-, rank'', ranked''⟩ := exists_ranked_of_beq equal'
  exact (ranked.beq_iff ranked'').mpr
    (((ranked.beq_iff ranked').mp equal).trans ((ranked'.beq_iff ranked'').mp equal'))

/-- Doubles that are equal are numbers. -/
theorem Double.isNaN_eq_of_beq (equal : (first == second) = true) :
    first.isNaN = false ∧ second.isNaN = false := by
  obtain ⟨⟨rank, ranked⟩, rank', ranked'⟩ := exists_ranked_of_beq equal
  exact ⟨ranked.isNaN_eq, ranked'.isNaN_eq⟩

/-- Equal doubles equal the same doubles. -/
theorem Double.beq_congr (equal : (first == second) = true) (other : Float) :
    (first == other) = (second == other) :=
  Bool.eq_iff_iff.mpr ⟨beq_trans (beq_symm equal), beq_trans equal⟩

/-! ## Rounding keeps the order -/

theorem rounded_neg (size : Nat) : rounded (-(size : Int)) = -(nearest size 1 : Nat) :=
  rounded_apply .negative size

theorem rounded_mono (ordered : steps ≤ steps') : rounded steps ≤ rounded steps' := by
  rcases Int.eq_nat_or_neg steps with ⟨size, rfl | rfl⟩
  · obtain ⟨size', rfl⟩ := Int.eq_ofNat_of_zero_le (Int.le_trans (Int.natCast_nonneg size) ordered)
    rw [rounded_natCast, rounded_natCast]
    exact Int.ofNat_le.mpr (nearest_mono (Int.ofNat_le.mp ordered) Nat.one_pos)
  · rcases Int.eq_nat_or_neg steps' with ⟨size', rfl | rfl⟩
    · rw [rounded_neg, rounded_natCast]
      omega
    · have reversed := nearest_mono (by omega : size' ≤ size) Nat.one_pos
      rw [rounded_neg, rounded_neg]
      omega

/-- A whole number of steps is rounded by one part in `2^53` at most. -/
theorem nearest_one_near (size : Nat) :
    twoTo 53 * nearest size 1 ≤ (twoTo 53 + 1) * size
    ∧ (twoTo 53 - 1) * size ≤ twoTo 53 * nearest size 1 := by
  rcases Nat.lt_or_ge size (twoTo 52) with small | normal
  · have kept : nearest size 1 = size := by
      refine nearest_one ?_
      rw [gap_of_lt (Nat.lt_trans small (by decide))]
      exact Nat.one_dvd size
    rw [kept]
    exact ⟨Nat.mul_le_mul_right size (Nat.le_succ _), Nat.mul_le_mul_right size (Nat.sub_le _ _)⟩
  · have near := nearest_near (by omega : twoTo 52 * 1 ≤ size) Nat.one_pos
    rwa [Nat.mul_one] at near

/-- Subtracting what is not too small leads down, also after rounding. -/
theorem rounded_sub_lt {margin : Nat} (large : steps.natAbs < twoTo 50 * margin) :
    rounded (steps - margin) < steps := by
  obtain ⟨size, same⟩ := Int.eq_nat_or_neg (steps - margin)
  obtain ⟨upper, lower⟩ := nearest_one_near size
  simp only [twoTo, Nat.pow_eq, Nat.reducePow] at large upper lower
  rcases same with same | same
  · rw [same, rounded_natCast]
    omega
  · rw [same, rounded_neg]
    omega

/-! ## Sums and differences -/

/-- A number of steps, cut off at the ranks of the infinities. -/
def saturated (steps : Int) : Int :=
  max (-overflowSteps) (min steps overflowSteps)

theorem saturated_mono (ordered : steps ≤ steps') : saturated steps ≤ saturated steps' := by
  rw [saturated, saturated]
  omega

theorem saturated_of_lt (small : steps.natAbs < overflowSteps) : saturated steps = steps := by
  rw [saturated]
  omega

theorem unpack_pack_infinity (sign : Sign) :
    (Float.Model.pack (.infinity sign)).unpack = .infinity sign := by
  cases sign with
  | negative => rfl
  | positive => rfl

/-- What is in canonical form is cut off by packing. -/
theorem Spells.ranked_pack (spells : Spells number steps) :
    Ranked (Float.ofModel (Float.Model.pack number)) (saturated steps) := by
  rcases Nat.lt_or_ge steps.natAbs overflowSteps with small | large
  · rw [saturated_of_lt small]
    exact (spells.isSteps small).ranked
  · cases spells with
    | zero => exact absurd overflowSteps_pos (Nat.not_lt.mpr large)
    | @finite sign mantissa exponent positive canonical =>
      rw [natAbs_apply] at large
      have cut : saturated (sign.apply (scaled mantissa exponent))
          = sign.apply overflowSteps := by
        cases sign with
        | negative =>
          show max (-(overflowSteps : Int)) (min (-(scaled mantissa exponent : Int)) _)
            = -(overflowSteps : Int)
          omega
        | positive =>
          show max (-(overflowSteps : Int)) (min (scaled mantissa exponent : Int) _)
            = (overflowSteps : Int)
          omega
      show Ranks (Float.Model.pack _).unpack _
      rw [cut, unpack_pack_large sign positive (canonical.le_exponent large)]
      exact .infinity sign

theorem IsSteps.ranked_add (isSteps : IsSteps first steps) (isSteps' : IsSteps second steps') :
    Ranked (first + second) (saturated (rounded (steps + steps'))) :=
  ((isSteps_iff.mp isSteps).add (isSteps_iff.mp isSteps')).ranked_pack

theorem IsSteps.ranked_sub (isSteps : IsSteps first steps) (isSteps' : IsSteps second steps') :
    Ranked (first - second) (saturated (rounded (steps - steps'))) :=
  ((isSteps_iff.mp isSteps).sub (isSteps_iff.mp isSteps')).ranked_pack

theorem IsSteps.ranked_mul (isSteps : IsSteps first steps) (isSteps' : IsSteps second steps') :
    Ranked (first * second) (saturated (roundedProduct steps steps')) :=
  ((isSteps_iff.mp isSteps).mul (isSteps_iff.mp isSteps')).ranked_pack

/-- A finite double is rounded and cut off to itself. -/
theorem IsSteps.saturated_rounded (isSteps : IsSteps first steps) :
    saturated (rounded steps) = steps := by
  rw [(isSteps_iff.mp isSteps).rounded_eq, saturated_of_lt isSteps.representable.lt_overflow]

/-- The sum of a finite number and an infinity is the infinity. -/
theorem Spells.add_infinity (spells : Spells number steps) (sign : Sign) :
    UnpackedFloat.add Format.binary64 number (.infinity sign) = .infinity sign := by
  cases spells with
  | zero => rfl
  | finite => rfl

theorem IsSteps.ranked_add_infinity (isSteps : IsSteps first steps) {sign : Sign}
    (infinite : second.toModel.unpack = .infinity sign) :
    Ranked (first + second) (sign.apply overflowSteps) := by
  show Ranks (Float.Model.pack (UnpackedFloat.add Format.binary64 first.toModel.unpack
    second.toModel.unpack)).unpack _
  rw [infinite, (isSteps_iff.mp isSteps).add_infinity, unpack_pack_infinity]
  exact .infinity sign

theorem IsSteps.ranked_sub_infinity (isSteps : IsSteps first steps) {sign : Sign}
    (infinite : second.toModel.unpack = .infinity sign) :
    Ranked (first - second) ((-sign).apply overflowSteps) := by
  show Ranks (Float.Model.pack (UnpackedFloat.sub Format.binary64 first.toModel.unpack
    second.toModel.unpack)).unpack _
  rw [infinite, sub_eq_add_neg, UnpackedFloat.neg, (isSteps_iff.mp isSteps).add_infinity,
    unpack_pack_infinity]
  exact .infinity (-sign)

/-- Adding what is not negative does not lead down, and subtracting it does not lead up. -/
theorem IsSteps.le_add_and_sub_le (isSteps : IsSteps first steps) (nonneg : 0 ≤ second) :
    first ≤ first + second ∧ first - second ≤ first := by
  obtain ⟨-, rank, ranked⟩ := exists_ranked_of_le nonneg
  have above : 0 ≤ rank := (isSteps_zero.ranked.le_iff ranked).mp nonneg
  rcases ranked.isSteps_or_infinity with isSteps' | ⟨sign, infinite, rfl⟩
  · rw [isSteps.ranked.le_iff (isSteps.ranked_add isSteps'),
      (isSteps.ranked_sub isSteps').le_iff isSteps.ranked]
    have kept := isSteps.saturated_rounded
    have upward := saturated_mono (rounded_mono (by omega : steps ≤ steps + rank))
    have downward := saturated_mono (rounded_mono (by omega : steps - rank ≤ steps))
    rw [kept] at upward downward
    exact ⟨upward, downward⟩
  · obtain rfl := eq_positive_of_nonneg above
    rw [isSteps.ranked.le_iff (isSteps.ranked_add_infinity infinite),
      (isSteps.ranked_sub_infinity infinite).le_iff isSteps.ranked]
    have small := isSteps.representable.lt_overflow
    constructor
    · show steps ≤ (overflowSteps : Int)
      omega
    · show -(overflowSteps : Int) ≤ steps
      omega

/-! ## Products -/

theorem roundedProduct_nonneg (nonneg : 0 ≤ steps) (nonneg' : 0 ≤ steps') :
    0 ≤ roundedProduct steps steps' := by
  obtain ⟨size, rfl⟩ := Int.eq_ofNat_of_zero_le nonneg
  obtain ⟨size', rfl⟩ := Int.eq_ofNat_of_zero_le nonneg'
  rw [roundedProduct_natCast]
  exact Int.natCast_nonneg _

/-- The product with a positive double is not negative if the other factor is not. -/
theorem IsSteps.mul_nonneg (isSteps : IsSteps second steps) (positive : 0 < steps)
    (nonneg : 0 ≤ first) : 0 ≤ first * second := by
  obtain ⟨-, rank, ranked⟩ := exists_ranked_of_le nonneg
  have above : 0 ≤ rank := (isSteps_zero.ranked.le_iff ranked).mp nonneg
  rcases ranked.isSteps_or_infinity with isSteps' | ⟨sign, infinite, rfl⟩
  · rw [isSteps_zero.ranked.le_iff (isSteps'.ranked_mul isSteps)]
    have product := roundedProduct_nonneg above (Int.le_of_lt positive)
    have limit := overflowSteps_pos
    rw [saturated]
    omega
  · obtain rfl := eq_positive_of_nonneg above
    have spells := isSteps_iff.mp isSteps
    have product : Ranked (first * second) overflowSteps := by
      show Ranks (Float.Model.pack (UnpackedFloat.mul Format.binary64 first.toModel.unpack
        second.toModel.unpack)).unpack _
      rw [infinite]
      generalize second.toModel.unpack = number at spells
      cases spells with
      | zero => exact absurd positive (Int.lt_irrefl 0)
      | finite sign positive' canonical =>
        cases sign with
        | negative =>
          have below : 0 < -(scaled _ _ : Int) := positive
          omega
        | positive =>
          show Ranks (Float.Model.pack (.infinity .positive)).unpack _
          rw [unpack_pack_infinity]
          exact .infinity .positive
    exact (isSteps_zero.ranked.le_iff product).mpr (Int.natCast_nonneg _)

end DeltaStudy.Numeral
