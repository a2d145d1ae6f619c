import DeltaStudy.Numeral.Shortest
import DeltaStudy.Proofs.Numeral.Rounding

/-!
# The search for the shortest decimal

What `readsBack` accepts are the decimals that are near a number of steps. On a grid
that is fine enough the decimal below a number of steps is near it, and the last grid
that the search tries is fine enough for every size of a double. So the search ends
with a decimal that rounds to the size it was given.

That there is no shorter decimal is not claimed here.
-/

namespace DeltaStudy.Numeral

variable {steps digits : Nat} {exponent : Int}

theorem stepsPerUnit_pos : 0 < stepsPerUnit :=
  Nat.lt_of_lt_of_eq (twoTo_pos 1074) (twoTo_eq_stepsPerUnit rfl)

/-- A gap is no larger than the number of steps above it. -/
theorem gap_pred_le (positive : 0 < steps) : gap (steps - 1) ≤ steps := by
  rcases Nat.lt_or_ge (steps - 1) (twoTo 53) with small | large
  · rw [gap_of_lt small]
    exact positive
  · have part := gap_mul_le (Nat.le_trans (twoTo_le_twoTo (by decide)) large)
    have below : gap (steps - 1) * 1 ≤ gap (steps - 1) * twoTo 52 :=
      Nat.mul_le_mul_left _ (twoTo_pos 52)
    omega

/-- The decimals that read back are those near the number of steps. -/
theorem readsBack_iff (positive : 0 < steps) :
    readsBack steps digits exponent = true ↔
      Near steps (digits * tenTo exponent.toNat * stepsPerUnit) (tenTo (-exponent).toNat) := by
  have gapBelow : gap (steps - 1) * tenTo (-exponent).toNat ≤ steps * tenTo (-exponent).toNat :=
    Nat.mul_le_mul_right _ (gap_pred_le positive)
  have decimal : 2 * digits * stepsPerUnit * tenTo exponent.toNat
      = 2 * (digits * tenTo exponent.toNat * stepsPerUnit) := by
    rw [Nat.mul_assoc, Nat.mul_assoc, Nat.mul_comm stepsPerUnit, Nat.mul_assoc]
  have lower : (2 * steps - gap (steps - 1)) * tenTo (-exponent).toNat
      = 2 * (steps * tenTo (-exponent).toNat)
        - gap (steps - 1) * tenTo (-exponent).toNat := by
    rw [Nat.sub_mul, Nat.mul_assoc]
  have upper : (2 * steps + gap steps) * tenTo (-exponent).toNat
      = 2 * (steps * tenTo (-exponent).toNat) + gap steps * tenTo (-exponent).toNat := by
    rw [Nat.add_mul, Nat.mul_assoc]
  simp only [readsBack, decimal, lower, upper]
  constructor
  · intro accepted
    split at accepted
    · rename_i even
      simp only [Bool.and_eq_true, decide_eq_true_eq] at accepted
      exact ⟨by omega, by omega, fun odd => by omega⟩
    · simp only [Bool.and_eq_true, decide_eq_true_eq] at accepted
      exact ⟨by omega, by omega, fun odd => by omega⟩
  · rintro ⟨near, far, ties⟩
    split
    · simp only [Bool.and_eq_true, decide_eq_true_eq]
      omega
    · rename_i odd
      have strict := ties (by omega)
      simp only [Bool.and_eq_true, decide_eq_true_eq]
      omega

/-- A grid whose spacing is less than half the gap below a number of steps. -/
def Fine (steps : Nat) (exponent : Int) : Prop :=
  2 * (stepsPerUnit * tenTo exponent.toNat) ≤ gap (steps - 1) * tenTo (-exponent).toNat

/-- What a grid offers reads back. -/
theorem readsBack_of_onGrid? (offered : onGrid? steps exponent = some digits) :
    readsBack steps digits exponent = true := by
  unfold onGrid? at offered
  simp only at offered
  split at offered
  · rename_i below above
    rw [← Option.some.inj offered]
    split
    · exact above
    · exact below
  · rename_i below _
    rw [← Option.some.inj offered]
    exact below
  · rename_i _ above
    rw [← Option.some.inj offered]
    exact above
  · cases offered

/-- A fine grid offers a decimal. -/
theorem onGrid?_of_fine (positive : 0 < steps) (fine : Fine steps exponent) :
    ∃ digits, onGrid? steps exponent = some digits := by
  have below : readsBack steps (steps * tenTo (-exponent).toNat
      / (stepsPerUnit * tenTo exponent.toNat)) exponent = true := by
    rw [readsBack_iff positive, Nat.mul_assoc, Nat.mul_comm (tenTo _)]
    have split := Nat.div_add_mod (steps * tenTo (-exponent).toNat)
      (stepsPerUnit * tenTo exponent.toNat)
    have rest := Nat.mod_lt (steps * tenTo (-exponent).toNat)
      (Nat.mul_pos stepsPerUnit_pos (tenTo_pos exponent.toNat))
    have room : 0 < gap steps * tenTo (-exponent).toNat := Nat.mul_pos (gap_pos _) (tenTo_pos _)
    rw [Nat.mul_comm (stepsPerUnit * _)] at split
    unfold Fine at fine
    exact ⟨by omega, by omega, fun _ => by omega⟩
  unfold onGrid?
  simp only [below]
  split
  · exact ⟨_, rfl⟩
  · exact ⟨_, rfl⟩
  · rename_i impossible _
    cases impossible
  · rename_i impossible _
    cases impossible

/-- A search that gets to a fine grid ends with a decimal that reads back. -/
theorem readsBack_searchGrids (positive : 0 < steps) (fuel : Nat)
    (fine : Fine steps (exponent - fuel)) :
    readsBack steps (searchGrids steps (fuel + 1) exponent).1
      (searchGrids steps (fuel + 1) exponent).2 = true := by
  induction fuel generalizing exponent with
  | zero =>
    obtain ⟨digits, offered⟩ := onGrid?_of_fine positive (by simpa using fine)
    rw [searchGrids, offered]
    exact readsBack_of_onGrid? offered
  | succ fuel inductionHypothesis =>
    rw [searchGrids]
    cases offered : onGrid? steps exponent with
    | some digits => exact readsBack_of_onGrid? offered
    | none =>
      refine inductionHypothesis ?_
      have : exponent - 1 - (fuel : Int) = exponent - ((fuel + 1 : Nat) : Int) := by omega
      rwa [this]

/-- The exponent of the last grid that is tried for a number of steps by the place
of its leading bit. -/
def lastExponent (place : Nat) : Int :=
  (((place : Int) + 1 - 1074) * 30103) / 100000 + 1 - 23

/-- The last grid is fine for every place that the leading bit of a double may have. -/
theorem lastExponent_fine : ∀ place < 2098,
    4 * (stepsPerUnit * tenTo (lastExponent place).toNat)
      ≤ twoTo (place - 52) * tenTo (-lastExponent place).toNat := by
  decide +kernel

/-- The last grid is fine for the size of a double. -/
theorem fine_of_representable (representable : Representable steps) (positive : 0 < steps) :
    Fine steps (powerAbove steps - 23) := by
  have place : steps.log2 < 2098 :=
    (log2_lt_iff positive).mpr
      (Nat.lt_of_lt_of_eq representable.lt_overflow (twoTo_eq_overflowSteps rfl).symm)
  have fine := lastExponent_fine steps.log2 place
  show 2 * (stepsPerUnit * tenTo (lastExponent steps.log2).toNat)
    ≤ gap (steps - 1) * tenTo (-lastExponent steps.log2).toNat
  have halved : gap steps * tenTo (-lastExponent steps.log2).toNat
      ≤ 2 * (gap (steps - 1) * tenTo (-lastExponent steps.log2).toNat) := by
    rw [← Nat.mul_assoc]
    refine Nat.mul_le_mul_right _ ?_
    rcases gap_pred steps with same | doubled
    · omega
    · omega
  rw [gap] at halved
  omega

/-- The search ends with a decimal that is near the size it was given. -/
theorem near_shortestDecimal (representable : Representable steps) (positive : 0 < steps) :
    Near steps ((shortestDecimal steps).1 * tenTo (shortestDecimal steps).2.toNat * stepsPerUnit)
      (tenTo (-(shortestDecimal steps).2).toNat) :=
  (readsBack_iff positive).mp
    (readsBack_searchGrids positive 23 (fine_of_representable representable positive))

end DeltaStudy.Numeral
