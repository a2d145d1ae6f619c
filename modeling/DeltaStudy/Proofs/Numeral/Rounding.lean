import DeltaStudy.Proofs.Numeral.Doubles

/-!
# Rounding to the nearest double

A quotient rounds to a representable number of steps exactly where the interval of
`readsBack` says: no farther away than half a gap on either side, and at half a gap
only towards an even significand.
-/

namespace DeltaStudy.Numeral

/-- A quotient rounds to a whole number that is at most a half away, and to an even
one if it is exactly a half away. -/
theorem roundHalfEven_eq {numerator denominator whole : Nat}
    (lower : 2 * (whole * denominator) ≤ 2 * numerator + denominator)
    (upper : 2 * numerator ≤ 2 * (whole * denominator) + denominator)
    (ties : whole % 2 = 1 → 2 * (whole * denominator) < 2 * numerator + denominator
      ∧ 2 * numerator < 2 * (whole * denominator) + denominator)
    (positive : 0 < denominator) : roundHalfEven numerator denominator = whole := by
  rcases Nat.lt_or_ge numerator (whole * denominator) with less | more
  · -- The quotient is below the number, so it is cut off to the number before.
    obtain ⟨before, rfl⟩ : ∃ before, whole = before + 1 := by
      cases whole with
      | zero => simp at less
      | succ before => exact ⟨before, rfl⟩
    have grown : (before + 1) * denominator = before * denominator + denominator :=
      Nat.succ_mul before denominator
    have cut : numerator / denominator = before :=
      Nat.div_eq_of_lt_le (by omega) (by omega)
    have excess := Nat.div_add_mod numerator denominator
    rw [cut, Nat.mul_comm] at excess
    simp only [roundHalfEven, cut]
    split
    · omega
    · split
      · rfl
      · omega
  · have cut : numerator / denominator = whole :=
      Nat.div_eq_of_lt_le (by omega) (by rw [Nat.succ_mul]; omega)
    have excess := Nat.div_add_mod numerator denominator
    rw [cut, Nat.mul_comm] at excess
    simp only [roundHalfEven, cut]
    split
    · rfl
    · split
      · omega
      · omega

theorem gap_pos (steps : Nat) : 0 < gap steps :=
  twoTo_pos _

theorem gap_eq_of_log2_eq {left right : Nat} (same : left.log2 = right.log2) :
    gap left = gap right := by
  rw [gap, gap, same]

/-- From one number of steps to the next the leading bit stays or moves by one. -/
theorem log2_pred {number : Nat} (large : 1 < number) :
    number.log2 = (number - 1).log2 ∨ number.log2 = (number - 1).log2 + 1 := by
  have positive : 0 < number - 1 := by omega
  obtain ⟨lower, upper⟩ := (log2_eq_iff positive).mp rfl
  rcases Nat.lt_or_ge number (twoTo ((number - 1).log2 + 1)) with less | more
  · exact .inl ((log2_eq_iff (by omega)).mpr ⟨by omega, less⟩)
  · refine .inr ((log2_eq_iff (by omega)).mpr ⟨more, ?_⟩)
    have doubled := twoTo_succ ((number - 1).log2 + 1)
    have nonzero := twoTo_pos ((number - 1).log2 + 1)
    omega

/-- From one number of steps to the next the gap stays the same or doubles. -/
theorem gap_pred (steps : Nat) :
    gap steps = gap (steps - 1) ∨ gap steps = 2 * gap (steps - 1) := by
  rcases Nat.lt_or_ge 1 steps with large | small
  · rcases log2_pred large with same | moved
    · exact .inl (gap_eq_of_log2_eq same)
    · rcases Nat.lt_or_ge (steps - 1).log2 52 with low | high
      · refine .inl ?_
        rw [gap, gap, moved, Nat.sub_eq_zero_of_le low, Nat.sub_eq_zero_of_le (Nat.le_of_lt low)]
      · refine .inr ?_
        rw [gap, gap, moved, Nat.sub_add_comm high, twoTo_succ]
  · refine .inl (gap_eq_of_log2_eq ?_)
    have : steps = 0 ∨ steps = 1 := by omega
    rcases this with rfl | rfl
    · rfl
    · rfl

/-- The gap below a number of steps divides the gap above it. -/
theorem gap_pred_dvd (steps : Nat) : gap (steps - 1) ∣ gap steps := by
  rcases gap_pred steps with same | doubled
  · exact ⟨1, same.trans (Nat.mul_one _).symm⟩
  · exact ⟨2, doubled.trans (Nat.mul_comm _ _)⟩

/-- From `2^52` steps on a gap is the part of its binade that 52 bits count. -/
theorem binade_of_normal {steps : Nat} (normal : twoTo 52 ≤ steps) :
    twoTo steps.log2 = gap steps * twoTo 52 := by
  have positive : 0 < steps := Nat.lt_of_lt_of_le (twoTo_pos 52) normal
  have high : 52 ≤ steps.log2 := (Nat.le_log2 (Nat.ne_of_gt positive)).mpr normal
  rw [gap, ← twoTo_add, Nat.sub_add_cancel high]

/-- From `2^52` steps on a gap is one part in `2^52` at most. -/
theorem gap_mul_le {steps : Nat} (normal : twoTo 52 ≤ steps) : gap steps * twoTo 52 ≤ steps := by
  rw [← binade_of_normal normal]
  exact ((log2_eq_iff (Nat.lt_of_lt_of_le (twoTo_pos 52) normal)).mp rfl).1

/-- From `2^53` steps on a gap is more than one step. -/
theorem two_le_gap {steps : Nat} (large : twoTo 53 ≤ steps) : 2 ≤ gap steps := by
  have positive : 0 < steps := Nat.lt_of_lt_of_le (twoTo_pos 53) large
  have high : 53 ≤ steps.log2 := (Nat.le_log2 (Nat.ne_of_gt positive)).mpr large
  exact twoTo_le_twoTo (by omega : 1 ≤ steps.log2 - 52)

/-- Less than half a gap above a representable number of steps the gap is the same. -/
theorem gap_above {steps cut : Nat} (divides : gap steps ∣ steps) (lower : steps ≤ cut)
    (upper : 2 * cut ≤ 2 * steps + gap steps) : gap cut = gap steps := by
  rcases Nat.lt_or_ge steps (twoTo 53) with small | large
  · rw [gap_of_lt small] at upper
    have : cut = steps := by omega
    rw [this]
  · have positive : 0 < steps := Nat.lt_of_lt_of_le (twoTo_pos 53) large
    obtain ⟨floor, ceiling⟩ := (log2_eq_iff positive).mp rfl
    have binade := binade_of_normal (Nat.le_trans (twoTo_le_twoTo (by decide)) large)
    have wide := two_le_gap large
    have room : gap steps ≤ twoTo (steps.log2 + 1) - steps := by
      refine Nat.le_of_dvd (by omega) (Nat.dvd_sub ?_ divides)
      rw [twoTo_succ, binade]
      exact Nat.dvd_mul_left_of_dvd (Nat.dvd_mul_right _ _) 2
    exact gap_eq_of_log2_eq ((log2_eq_iff (by omega)).mpr ⟨by omega, by omega⟩)

/-- Less than half a gap below a representable number of steps the gap is that below it. -/
theorem gap_below {steps cut : Nat} (divides : gap steps ∣ steps) (upper : cut < steps)
    (lower : 2 * steps < 2 * cut + 2 + gap (steps - 1)) : gap cut = gap (steps - 1) := by
  rcases Nat.lt_or_ge (steps - 1) (twoTo 53) with small | large
  · rw [gap_of_lt small] at lower
    have : cut = steps - 1 := by omega
    rw [this]
  · have positive : 0 < steps - 1 := Nat.lt_of_lt_of_le (twoTo_pos 53) large
    obtain ⟨floor, ceiling⟩ := (log2_eq_iff positive).mp rfl
    have binade := binade_of_normal (Nat.le_trans (twoTo_le_twoTo (by decide)) large)
    have wide := two_le_gap large
    have shared : gap (steps - 1) ∣ steps := Nat.dvd_trans (gap_pred_dvd steps) divides
    have room : gap (steps - 1) ≤ steps - twoTo (steps - 1).log2 := by
      refine Nat.le_of_dvd (by omega) (Nat.dvd_sub shared ?_)
      rw [binade]
      exact Nat.dvd_mul_right _ _
    exact gap_eq_of_log2_eq ((log2_eq_iff (by omega)).mpr ⟨by omega, by omega⟩)

/-- Rounding on a grid gives the point of the grid that is at most half a grain away. -/
theorem round_on_grid {steps numerator denominator grain : Nat} (divides : grain ∣ steps)
    (positive : 0 < denominator * grain)
    (lower : 2 * (steps * denominator) ≤ 2 * numerator + grain * denominator)
    (upper : 2 * numerator ≤ 2 * (steps * denominator) + grain * denominator)
    (ties : steps / grain % 2 = 1 →
      2 * (steps * denominator) < 2 * numerator + grain * denominator
        ∧ 2 * numerator < 2 * (steps * denominator) + grain * denominator) :
    roundHalfEven numerator (denominator * grain) * grain = steps := by
  have scaled : steps / grain * (denominator * grain) = steps * denominator := by
    rw [Nat.mul_comm denominator, ← Nat.mul_assoc, Nat.div_mul_cancel divides]
  have whole : roundHalfEven numerator (denominator * grain) = steps / grain := by
    rw [Nat.mul_comm grain denominator] at lower upper ties
    rw [← scaled] at lower upper ties
    exact roundHalfEven_eq lower upper ties positive
  rw [whole, Nat.div_mul_cancel divides]

/-- A quotient that is nearer to a number of steps than to any other. -/
structure Near (steps numerator denominator : Nat) : Prop where
  /-- It is at most half a gap below. -/
  lower : 2 * (steps * denominator) ≤ 2 * numerator + gap (steps - 1) * denominator
  /-- It is at most half a gap above. -/
  upper : 2 * numerator ≤ 2 * (steps * denominator) + gap steps * denominator
  /-- It is less than that away from an odd significand. -/
  ties : steps / gap steps % 2 = 1 →
    2 * (steps * denominator) < 2 * numerator + gap (steps - 1) * denominator
      ∧ 2 * numerator < 2 * (steps * denominator) + gap steps * denominator

/-- A quotient rounds to the number of steps that it is near. -/
theorem round_of_near {steps numerator denominator : Nat} (divides : gap steps ∣ steps)
    (positive : 0 < denominator) (near : Near steps numerator denominator) :
    roundHalfEven numerator (denominator * gap (numerator / denominator))
      * gap (numerator / denominator) = steps := by
  obtain ⟨lower, upper, ties⟩ := near
  have split := Nat.div_add_mod numerator denominator
  have rest := Nat.mod_lt numerator positive
  have above : 0 < gap steps * denominator := Nat.mul_pos (gap_pos _) positive
  have below : 0 < gap (steps - 1) * denominator := Nat.mul_pos (gap_pos _) positive
  rw [Nat.mul_comm] at split
  generalize cut : numerator / denominator = whole at *
  rcases Nat.lt_or_ge numerator (steps * denominator) with less | more
  · have smaller : whole < steps := by
      rw [← cut]
      exact (Nat.div_lt_iff_lt_mul positive).mpr less
    have grain : gap whole = gap (steps - 1) := by
      refine gap_below divides smaller ?_
      have : 2 * steps * denominator < (2 * whole + 2 + gap (steps - 1)) * denominator := by
        rw [Nat.add_mul, Nat.add_mul, Nat.mul_assoc, Nat.mul_assoc]
        omega
      exact Nat.lt_of_mul_lt_mul_right this
    rw [grain]
    refine round_on_grid (Nat.dvd_trans (gap_pred_dvd steps) divides)
      (Nat.mul_pos positive (gap_pos _)) lower (by omega) ?_
    intro odd
    rcases gap_pred steps with same | doubled
    · exact ⟨(ties (same ▸ odd)).1, by omega⟩
    · -- In gaps from below, the smallest number after a power of two is even.
      obtain ⟨significand, spelled⟩ := divides
      rw [doubled, Nat.mul_assoc, Nat.mul_left_comm] at spelled
      have even := Nat.div_eq_of_eq_mul_right (gap_pos _) spelled
      omega
  · have larger : steps ≤ whole := by
      rw [← cut]
      exact (Nat.le_div_iff_mul_le positive).mpr more
    have grain : gap whole = gap steps := by
      refine gap_above divides larger ?_
      have : 2 * whole * denominator ≤ (2 * steps + gap steps) * denominator := by
        rw [Nat.add_mul, Nat.mul_assoc, Nat.mul_assoc]
        omega
      exact Nat.le_of_mul_le_mul_right this positive
    rw [grain]
    exact round_on_grid divides (Nat.mul_pos positive (gap_pos _)) (by omega) upper
      fun odd => ⟨by omega, (ties odd).2⟩

/-- The quotients that round to a number of steps as literals do. -/
theorem nearestSteps_of_near {steps numerator denominator : Nat} (divides : gap steps ∣ steps)
    (positive : 0 < denominator) (near : Near steps (numerator * stepsPerUnit) denominator) :
    nearestSteps numerator denominator = steps :=
  round_of_near divides positive near

end DeltaStudy.Numeral
