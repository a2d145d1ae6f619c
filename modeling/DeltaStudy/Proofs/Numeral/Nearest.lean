import DeltaStudy.Proofs.Numeral.Grids

/-!
# Bounds of rounding

`nearest` is what an arithmetic operation rounds a quotient of steps to. What it rounds
to is representable again, keeps the order, and comes with two kinds of bounds. Between neighbouring
representable numbers it is on the side of the nearer one, and from `2^52` steps on it is
off by one part in `2^53` at most.

How the operations of `Float` round is not said here.
-/

namespace DeltaStudy.Numeral

variable {steps numerator numerator' denominator whole factor : Nat}

/-- The representable number that is nearest to a quotient of steps. -/
def nearest (numerator denominator : Nat) : Nat :=
  roundHalfEven numerator (denominator * gap (numerator / denominator))
    * gap (numerator / denominator)

/-! ## Rounding to a whole number -/

/-- What a quotient is rounded to is a half away at most. -/
theorem roundHalfEven_near (numerator : Nat) (positive : 0 < denominator) :
    2 * (roundHalfEven numerator denominator * denominator) ≤ 2 * numerator + denominator
    ∧ 2 * numerator ≤ 2 * (roundHalfEven numerator denominator * denominator) + denominator := by
  have split := Nat.div_add_mod numerator denominator
  have rest := Nat.mod_lt numerator positive
  rw [Nat.mul_comm] at split
  have next : (numerator / denominator + 1) * denominator
      = numerator / denominator * denominator + denominator :=
    Nat.succ_mul _ _
  simp only [roundHalfEven]
  split
  · omega
  · split
    · omega
    · rcases Nat.mod_two_eq_zero_or_one (numerator / denominator) with even | odd
      · rw [even, Nat.add_zero]
        omega
      · rw [odd]
        omega

theorem roundHalfEven_le (positive : 0 < denominator)
    (below : 2 * numerator < 2 * (whole * denominator) + denominator) :
    roundHalfEven numerator denominator ≤ whole := by
  have near := (roundHalfEven_near numerator positive).1
  have next := Nat.succ_mul whole denominator
  refine Nat.le_of_lt_succ (Nat.lt_of_mul_lt_mul_right (a := denominator) ?_)
  omega

theorem le_roundHalfEven (positive : 0 < denominator)
    (above : 2 * (whole * denominator) < 2 * numerator + denominator) :
    whole ≤ roundHalfEven numerator denominator := by
  have near := (roundHalfEven_near numerator positive).2
  have next := Nat.succ_mul (roundHalfEven numerator denominator) denominator
  refine Nat.le_of_lt_succ (Nat.lt_of_mul_lt_mul_right (a := denominator) ?_)
  omega

/-- A larger quotient is not rounded to a smaller number. -/
theorem roundHalfEven_mono (ordered : numerator ≤ numerator') (positive : 0 < denominator) :
    roundHalfEven numerator denominator ≤ roundHalfEven numerator' denominator := by
  refine Nat.le_of_not_lt fun reversed => ?_
  have near := (roundHalfEven_near numerator positive).1
  have near' := (roundHalfEven_near numerator' positive).2
  have apart := Nat.mul_le_mul_right denominator (Nat.succ_le_of_lt reversed)
  rw [Nat.succ_mul] at apart
  -- Only one number in the middle could go either way, and it goes one way.
  obtain rfl : numerator = numerator' := by omega
  exact Nat.lt_irrefl _ reversed

/-- A common factor does not change what a quotient is rounded to. -/
theorem roundHalfEven_mul_right (positive : 0 < factor) :
    roundHalfEven (numerator * factor) (denominator * factor)
      = roundHalfEven numerator denominator := by
  have cut : numerator * factor / (denominator * factor) = numerator / denominator :=
    Nat.mul_div_mul_right _ _ positive
  have rest : 2 * (numerator * factor % (denominator * factor))
      = 2 * (numerator % denominator) * factor := by
    rw [Nat.mul_mod_mul_right, Nat.mul_assoc]
  simp only [roundHalfEven, cut, rest, Nat.mul_lt_mul_right positive]

/-! ## Gaps -/

theorem gap_dvd_gap {small large : Nat} (ordered : small ≤ large) : gap small ∣ gap large := by
  have places : small.log2 ≤ large.log2 := by
    rcases Nat.eq_zero_or_pos small with rfl | positive
    · exact Nat.zero_le _
    · have nonzero : large ≠ 0 := Nat.ne_of_gt (Nat.lt_of_lt_of_le positive ordered)
      exact (Nat.le_log2 nonzero).mpr
        (Nat.le_trans ((log2_eq_iff positive).mp rfl).1 ordered)
  exact Nat.pow_dvd_pow 2 (Nat.sub_le_sub_right places 52)

theorem gap_le_gap {small large : Nat} (ordered : small ≤ large) : gap small ≤ gap large :=
  Nat.le_of_dvd (gap_pos _) (gap_dvd_gap ordered)

/-- There are fewer than `2^53` gaps in a number of steps. -/
theorem lt_gap_mul (steps : Nat) : steps < gap steps * twoTo 53 := by
  rcases Nat.lt_or_ge steps (twoTo 52) with small | normal
  · rw [gap_of_lt (Nat.lt_trans small (by decide)), Nat.one_mul]
    exact Nat.lt_trans small (by decide)
  · have upper := ((log2_eq_iff (Nat.lt_of_lt_of_le (twoTo_pos 52) normal)).mp rfl).2
    rw [twoTo_succ, binade_of_normal normal] at upper
    rw [twoTo_succ, Nat.mul_left_comm]
    exact upper

/-- A gap that is smaller than that of a later number of steps belongs to a smaller binade. -/
theorem lt_of_gap_lt {small large : Nat} (less : gap small < gap large) :
    small < twoTo large.log2 := by
  rcases Nat.eq_zero_or_pos small with rfl | positive
  · exact twoTo_pos _
  · refine (log2_lt_iff positive).mp (Nat.lt_of_not_le fun more => ?_)
    exact Nat.not_le.mpr less (twoTo_le_twoTo (Nat.sub_le_sub_right more 52))

/-- Any number of gaps that 53 bits can count is representable as far as its bits go. -/
theorem gap_dvd_of_le (few : whole ≤ twoTo 53) (place : Nat) :
    gap (whole * twoTo place) ∣ whole * twoTo place := by
  rcases Nat.eq_zero_or_pos whole with rfl | positive
  · rw [Nat.zero_mul]
    exact Nat.dvd_zero _
  · rw [gap, log2_mul_twoTo positive]
    rcases Nat.lt_or_ge whole (twoTo 53) with less | more
    · have short : whole.log2 < 53 := (log2_lt_iff positive).mpr less
      exact Nat.dvd_mul_left_of_dvd (Nat.pow_dvd_pow 2 (by omega)) whole
    · have top : (twoTo 53).log2 = 53 := (log2_eq_iff (twoTo_pos 53)).mpr (by decide)
      rw [Nat.le_antisymm few more, ← twoTo_add, top]
      exact Nat.pow_dvd_pow 2 (by omega)

theorem gap_dvd_twoTo (place : Nat) : gap (twoTo place) ∣ twoTo place := by
  have divides := gap_dvd_of_le (twoTo_pos 53) place
  rwa [Nat.one_mul] at divides

/-- A representable number from the start of a binade on is so many gaps of that binade. -/
theorem twoTo_dvd_of_le {place : Nat} (divides : gap steps ∣ steps)
    (large : twoTo (place + 52) ≤ steps) : twoTo place ∣ steps := by
  have leading : (twoTo (place + 52)).log2 = place + 52 := Nat.log2_two_pow
  have start : gap (twoTo (place + 52)) = twoTo place := by
    rw [gap, leading, Nat.add_sub_cancel]
  exact Nat.dvd_trans (start ▸ gap_dvd_gap large) divides

/-! ## Rounding to a representable number -/

/-- A quotient that is nearer to a representable number than to the next one is not rounded
beyond it. -/
theorem nearest_le (positive : 0 < denominator) (divides : gap steps ∣ steps)
    (below : 2 * numerator < (2 * steps + gap steps) * denominator) :
    nearest numerator denominator ≤ steps := by
  have room : 0 < denominator * gap (numerator / denominator) := Nat.mul_pos positive (gap_pos _)
  have cutBelow : numerator / denominator * denominator ≤ numerator := Nat.div_mul_le_self _ _
  have grain : gap (numerator / denominator) ∣ gap steps
      ∧ (numerator < steps * denominator ∨ gap (numerator / denominator) = gap steps) := by
    rcases Nat.lt_or_ge (numerator / denominator) steps with less | more
    · exact ⟨gap_dvd_gap (Nat.le_of_lt less), .inl ((Nat.div_lt_iff_lt_mul positive).mp less)⟩
    · have same : gap (numerator / denominator) = gap steps := by
        refine gap_above divides more ?_
        have : 2 * (numerator / denominator) * denominator
            < (2 * steps + gap steps) * denominator := by
          rw [Nat.mul_assoc]
          omega
        exact Nat.le_of_lt (Nat.lt_of_mul_lt_mul_right this)
      exact ⟨same ▸ Nat.dvd_refl _, .inr same⟩
  obtain ⟨wholes, counted⟩ := Nat.dvd_trans grain.1 divides
  rw [nearest]
  generalize gap (numerator / denominator) = smallGap at *
  have product : wholes * (denominator * smallGap) = steps * denominator := by
    rw [counted, Nat.mul_comm denominator, ← Nat.mul_assoc, Nat.mul_comm wholes]
  have rounded : roundHalfEven numerator (denominator * smallGap) ≤ wholes := by
    refine roundHalfEven_le room ?_
    rw [product]
    rcases grain.2 with less | same
    · omega
    · rw [same, Nat.mul_comm denominator]
      rw [Nat.add_mul, Nat.mul_assoc] at below
      exact below
  rw [counted, Nat.mul_comm smallGap]
  exact Nat.mul_le_mul_right _ rounded

/-- A quotient that is nearer to a representable number than to the one before is not rounded
below it. -/
theorem le_nearest (positive : 0 < denominator) (divides : gap steps ∣ steps)
    (above : 2 * steps * denominator < 2 * numerator + gap (steps - 1) * denominator) :
    steps ≤ nearest numerator denominator := by
  have room : 0 < denominator * gap (numerator / denominator) := Nat.mul_pos positive (gap_pos _)
  have cutBelow : numerator / denominator * denominator ≤ numerator := Nat.div_mul_le_self _ _
  have cutAbove : numerator < (numerator / denominator + 1) * denominator :=
    Nat.lt_mul_of_div_lt (Nat.lt_succ_self _) positive
  -- A whole number of gaps that the quotient reaches is not lost.
  have kept {wholes : Nat}
      (reached : 2 * (wholes * gap (numerator / denominator)) * denominator
        < 2 * numerator + gap (numerator / denominator) * denominator) :
      wholes * gap (numerator / denominator) ≤ nearest numerator denominator := by
    refine Nat.mul_le_mul_right _ (le_roundHalfEven room ?_)
    rw [Nat.mul_comm denominator, ← Nat.mul_assoc wholes, ← Nat.mul_assoc 2]
    exact reached
  have reachedBelow (wholes : Nat)
      (below : wholes * gap (numerator / denominator) ≤ numerator / denominator) :
      wholes * gap (numerator / denominator) ≤ nearest numerator denominator := by
    have scaled := Nat.mul_le_mul_right denominator below
    have margin := Nat.mul_pos (gap_pos (numerator / denominator)) positive
    exact kept (by rw [Nat.mul_assoc]; omega)
  rcases Nat.lt_or_ge (numerator / denominator) steps with less | more
  · have same : gap (numerator / denominator) = gap (steps - 1) := by
      refine gap_below divides less ?_
      have : 2 * steps * denominator
          < (2 * (numerator / denominator) + 2 + gap (steps - 1)) * denominator := by
        rw [Nat.add_mul]
        rw [Nat.succ_mul] at cutAbove
        have : (2 * (numerator / denominator) + 2) * denominator
            = 2 * (numerator / denominator * denominator + denominator) := by
          rw [← Nat.succ_mul, ← Nat.mul_assoc]
          rfl
        omega
      exact Nat.lt_of_mul_lt_mul_right this
    obtain ⟨wholes, counted⟩ := Nat.dvd_trans (gap_pred_dvd steps) divides
    rw [← same, Nat.mul_comm] at counted
    rw [counted]
    refine kept ?_
    rw [← counted, same]
    exact above
  · rcases Nat.lt_or_ge (gap steps) (gap (numerator / denominator)) with grown | notGrown
    · -- The quotient is in a later binade, which begins above the number.
      have normal : twoTo 52 ≤ numerator / denominator := by
        refine Nat.le_of_not_lt fun small => ?_
        have unit := gap_of_lt (Nat.lt_trans small (by decide : twoTo 52 < twoTo 53))
        have := gap_pos steps
        omega
      have start := reachedBelow (twoTo 52)
        (by rw [Nat.mul_comm]; exact gap_mul_le normal)
      rw [Nat.mul_comm, ← binade_of_normal normal] at start
      exact Nat.le_trans (Nat.le_of_lt (lt_of_gap_lt grown)) start
    · have same : gap (numerator / denominator) = gap steps :=
        Nat.le_antisymm notGrown (gap_le_gap more)
      obtain ⟨wholes, counted⟩ := divides
      rw [← same, Nat.mul_comm] at counted
      rw [counted]
      exact reachedBelow wholes (by rw [← counted]; exact more)

/-- A quotient up to a representable number is not rounded beyond it. -/
theorem nearest_le_of_le (positive : 0 < denominator) (divides : gap steps ∣ steps)
    (bounded : numerator ≤ steps * denominator) : nearest numerator denominator ≤ steps := by
  have margin := Nat.mul_pos (gap_pos steps) positive
  refine nearest_le positive divides ?_
  rw [Nat.add_mul, Nat.mul_assoc]
  omega

/-- A quotient from a representable number on is not rounded below it. -/
theorem le_nearest_of_le (positive : 0 < denominator) (divides : gap steps ∣ steps)
    (bounded : steps * denominator ≤ numerator) : steps ≤ nearest numerator denominator := by
  have margin := Nat.mul_pos (gap_pos (steps - 1)) positive
  refine le_nearest positive divides ?_
  rw [Nat.mul_assoc]
  omega

/-- A quotient up to half of a power of two is not rounded to that power. -/
theorem nearest_lt_twoTo {place : Nat} (positive : 0 < denominator)
    (bounded : 2 * numerator ≤ twoTo (place + 1) * denominator) :
    nearest numerator denominator < twoTo (place + 1) := by
  have doubled := twoTo_succ place
  have above := twoTo_pos place
  rw [doubled, Nat.mul_assoc] at bounded
  have rounded := nearest_le_of_le positive (gap_dvd_twoTo place) (by omega : numerator ≤ _)
  omega

/-- A quotient up to half of what is too large is not rounded to what is too large. -/
theorem nearest_lt_overflowSteps (positive : 0 < denominator)
    (bounded : 2 * numerator ≤ overflowSteps * denominator) :
    nearest numerator denominator < overflowSteps := by
  have spelled := twoTo_eq_overflowSteps (rfl : 2097 + 1 = 2098)
  rw [← spelled] at bounded ⊢
  exact nearest_lt_twoTo positive bounded

/-- A larger quotient is not rounded to a smaller representable number. -/
theorem nearest_mono (ordered : numerator ≤ numerator') (positive : 0 < denominator) :
    nearest numerator denominator ≤ nearest numerator' denominator := by
  have wholes := Nat.div_le_div_right (c := denominator) ordered
  rcases Nat.lt_or_ge (gap (numerator / denominator)) (gap (numerator' / denominator)) with
    grown | notGrown
  · -- A binade begins between the quotients, and neither is rounded across its beginning.
    have nonzero : numerator' / denominator ≠ 0 := by
      intro zero
      have zeros : numerator / denominator = 0 := Nat.le_zero.mp (zero ▸ wholes)
      rw [zero, zeros] at grown
      exact Nat.lt_irrefl _ grown
    have below : numerator ≤ twoTo (numerator' / denominator).log2 * denominator :=
      Nat.le_of_lt ((Nat.div_lt_iff_lt_mul positive).mp (lt_of_gap_lt grown))
    have above : twoTo (numerator' / denominator).log2 * denominator ≤ numerator' :=
      (Nat.le_div_iff_mul_le positive).mp (Nat.log2_self_le nonzero)
    exact Nat.le_trans (nearest_le_of_le positive (gap_dvd_twoTo _) below)
      (le_nearest_of_le positive (gap_dvd_twoTo _) above)
  · have same := Nat.le_antisymm (gap_le_gap wholes) notGrown
    rw [nearest, nearest, same]
    exact Nat.mul_le_mul_right _ (roundHalfEven_mono ordered (Nat.mul_pos positive (gap_pos _)))

/-- A common factor does not change what a quotient is rounded to. -/
theorem nearest_mul_right (numerator denominator : Nat) (positive : 0 < factor) :
    nearest (numerator * factor) (denominator * factor) = nearest numerator denominator := by
  rw [nearest, Nat.mul_div_mul_right _ _ positive, Nat.mul_right_comm,
    roundHalfEven_mul_right positive]
  rfl

/-- A representable number is rounded to itself. -/
theorem nearest_mul (positive : 0 < denominator) (divides : gap steps ∣ steps) :
    nearest (steps * denominator) denominator = steps :=
  Nat.le_antisymm (nearest_le_of_le positive divides (Nat.le_refl _))
    (le_nearest_of_le positive divides (Nat.le_refl _))

theorem nearest_zero (positive : 0 < denominator) : nearest 0 denominator = 0 := by
  have rounded := nearest_mul positive (Nat.dvd_zero (gap 0))
  rwa [Nat.zero_mul] at rounded

theorem nearest_one (divides : gap steps ∣ steps) : nearest steps 1 = steps := by
  have rounded := nearest_mul Nat.one_pos divides
  rwa [Nat.mul_one] at rounded

/-- What a quotient is rounded to has no more bits than there is room for. -/
theorem gap_dvd_nearest (positive : 0 < denominator) :
    gap (nearest numerator denominator) ∣ nearest numerator denominator := by
  refine gap_dvd_of_le (roundHalfEven_le (Nat.mul_pos positive (gap_pos _)) ?_) _
  have upper : numerator < gap (numerator / denominator) * twoTo 53 * denominator :=
    Nat.lt_mul_of_div_lt (lt_gap_mul _) positive
  have product : twoTo 53 * (denominator * gap (numerator / denominator))
      = gap (numerator / denominator) * twoTo 53 * denominator := by
    rw [Nat.mul_comm denominator, ← Nat.mul_assoc, Nat.mul_comm (twoTo 53)]
  omega

/-- From `2^52` steps on a quotient is rounded by one part in `2^53` at most. -/
theorem nearest_near (normal : twoTo 52 * denominator ≤ numerator) (positive : 0 < denominator) :
    twoTo 53 * (nearest numerator denominator * denominator) ≤ (twoTo 53 + 1) * numerator
    ∧ (twoTo 53 - 1) * numerator ≤ twoTo 53 * (nearest numerator denominator * denominator) := by
  have near := roundHalfEven_near numerator
    (Nat.mul_pos positive (gap_pos (numerator / denominator)))
  have cut : gap (numerator / denominator) * twoTo 52 ≤ numerator / denominator :=
    gap_mul_le ((Nat.le_div_iff_mul_le positive).mpr normal)
  have part : denominator * gap (numerator / denominator) * twoTo 52 ≤ numerator := by
    rw [Nat.mul_assoc]
    exact Nat.le_trans (Nat.mul_le_mul_left _ cut) (Nat.mul_div_le _ _)
  have product : nearest numerator denominator * denominator
      = roundHalfEven numerator (denominator * gap (numerator / denominator))
        * (denominator * gap (numerator / denominator)) := by
    rw [nearest, Nat.mul_assoc, Nat.mul_comm denominator]
  rw [product]
  simp only [twoTo, Nat.pow_eq, Nat.reducePow] at part ⊢
  omega

end DeltaStudy.Numeral
