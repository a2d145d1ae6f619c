import DeltaStudy.Proofs.Numeral.Grids
import DeltaStudy.Proofs.Numeral.Literals

/-!
# The shortest text reads back

Every double that is a number is read back from its shortest text, bit for bit. So
two such doubles with the same text are the same. The text of a finite one that is
not negative holds nothing but digits and a point.
-/

namespace DeltaStudy.Numeral

section Position

variable {steps digits : Nat} {exponent : Int} (positive : 0 < steps)
  (near : Near steps (digits * tenTo exponent.toNat * stepsPerUnit) (tenTo (-exponent).toNat))
include positive near

/-- A decimal near a size is at least a third of it. -/
theorem le_of_near :
    steps * tenTo (-exponent).toNat ≤ 2 * (digits * tenTo exponent.toNat * stepsPerUnit) := by
  have gapBelow : gap (steps - 1) * tenTo (-exponent).toNat ≤ steps * tenTo (-exponent).toNat :=
    Nat.mul_le_mul_right _ (gap_pred_le positive)
  have lower := near.lower
  omega

/-- A decimal near a size is no zero. -/
theorem pos_of_near : 0 < digits := by
  rcases Nat.eq_zero_or_pos digits with rfl | nonzero
  · have bound := le_of_near positive near
    have scaled := Nat.mul_pos positive (tenTo_pos (-exponent).toNat)
    simp only [Nat.zero_mul] at bound
    omega
  · exact nonzero

/-- The first digit of a decimal near the size of a double is not too far in front of
the point. -/
theorem position_le (representable : Representable steps) :
    (digitsOf digits).length + exponent ≤ 310 := by
  apply Int.not_lt.mp
  intro far
  have limit : 3 * overflowSteps ≤ 2 * (stepsPerUnit * tenTo 310) := by
    decide +kernel
  have gapAbove : gap steps * tenTo (-exponent).toNat ≤ steps * tenTo (-exponent).toNat :=
    Nat.mul_le_mul_right _ (Nat.le_of_dvd positive representable.gap_dvd)
  have large : tenTo 310 * tenTo (-exponent).toNat ≤ digits * tenTo exponent.toNat :=
    calc tenTo 310 * tenTo (-exponent).toNat
        = tenTo (310 + (-exponent).toNat) := (tenTo_add _ _).symm
      _ ≤ tenTo ((digitsOf digits).length - 1 + exponent.toNat) := tenTo_le_tenTo (by omega)
      _ = tenTo ((digitsOf digits).length - 1) * tenTo exponent.toNat := tenTo_add _ _
      _ ≤ digits * tenTo exponent.toNat :=
          Nat.mul_le_mul_right _ (tenTo_length_pred_le (pos_of_near positive near))
  have impossible : 3 * overflowSteps * tenTo (-exponent).toNat
      < 3 * overflowSteps * tenTo (-exponent).toNat :=
    calc 3 * overflowSteps * tenTo (-exponent).toNat
        ≤ 2 * (stepsPerUnit * tenTo 310) * tenTo (-exponent).toNat :=
          Nat.mul_le_mul_right _ limit
      _ = 2 * (tenTo 310 * tenTo (-exponent).toNat * stepsPerUnit) := by
          rw [Nat.mul_assoc, Nat.mul_assoc, Nat.mul_comm stepsPerUnit]
      _ ≤ 2 * (digits * tenTo exponent.toNat * stepsPerUnit) :=
          Nat.mul_le_mul_left _ (Nat.mul_le_mul_right _ large)
      _ ≤ 2 * (steps * tenTo (-exponent).toNat) + gap steps * tenTo (-exponent).toNat :=
          near.upper
      _ ≤ 3 * (steps * tenTo (-exponent).toNat) := by omega
      _ = 3 * steps * tenTo (-exponent).toNat := (Nat.mul_assoc _ _ _).symm
      _ < 3 * overflowSteps * tenTo (-exponent).toNat :=
          Nat.mul_lt_mul_of_pos_right
            (Nat.mul_lt_mul_of_pos_left representable.lt_overflow (by decide)) (tenTo_pos _)
  exact Nat.lt_irrefl _ impossible

/-- The first digit of a decimal near a size is not too far behind the point. -/
theorem le_position : -330 ≤ (digitsOf digits).length + exponent := by
  apply Int.not_lt.mp
  intro far
  have limit : 2 * stepsPerUnit ≤ tenTo 331 := by
    decide +kernel
  have small : digits * tenTo exponent.toNat * tenTo 331 < tenTo (-exponent).toNat :=
    calc digits * tenTo exponent.toNat * tenTo 331
        < tenTo (digitsOf digits).length * tenTo exponent.toNat * tenTo 331 :=
          Nat.mul_lt_mul_of_pos_right
            (Nat.mul_lt_mul_of_pos_right (lt_tenTo_length digits) (tenTo_pos _)) (tenTo_pos _)
      _ = tenTo ((digitsOf digits).length + exponent.toNat + 331) := by
          rw [tenTo_add, tenTo_add]
      _ ≤ tenTo (-exponent).toNat := tenTo_le_tenTo (by omega)
  have impossible : tenTo (-exponent).toNat < tenTo (-exponent).toNat :=
    calc tenTo (-exponent).toNat
        ≤ steps * tenTo (-exponent).toNat := Nat.le_mul_of_pos_left _ positive
      _ ≤ 2 * (digits * tenTo exponent.toNat * stepsPerUnit) := le_of_near positive near
      _ = digits * tenTo exponent.toNat * (2 * stepsPerUnit) := Nat.mul_left_comm _ _ _
      _ ≤ digits * tenTo exponent.toNat * tenTo 331 := Nat.mul_le_mul_left _ limit
      _ < tenTo (-exponent).toNat := small
  exact Nat.lt_irrefl _ impossible

end Position

/-! ## Positional texts -/

section Positional

variable {digits : Nat} {exponent : Int}

/-- On a grid of whole numbers the text has no point. -/
theorem positional_of_nonneg (whole : 0 ≤ exponent) :
    positional digits exponent = digitsOf digits ++ List.replicate exponent.toNat '0' := by
  simp only [positional, if_pos whole]

variable (digits) in
/-- On a finer grid the text is the digits, with zeros in front, and a point that has
as many of them behind it as the grid has places. -/
theorem positional_of_neg (fine : exponent < 0) :
    ∃ zeros whole fraction, positional digits exponent = whole ++ '.' :: fraction
      ∧ whole ++ fraction = List.replicate zeros '0' ++ digitsOf digits
      ∧ whole ≠ [] ∧ (fraction.length : Int) = -exponent := by
  let places := (-exponent).toNat
  let padded := List.replicate (places + 1 - (digitsOf digits).length) '0' ++ digitsOf digits
  have long : places < padded.length := by
    simp only [padded, List.length_append, List.length_replicate]
    omega
  refine ⟨_, padded.take (padded.length - places), padded.drop (padded.length - places),
    by simp only [positional, if_neg (Int.not_le.mpr fine)]; rfl,
    List.take_append_drop _ _, ?_, ?_⟩
  · apply List.ne_nil_of_length_pos
    rw [List.length_take]
    omega
  · rw [List.length_drop]
    omega

/-- A positional text is a literal for the quotient that it was written for. -/
theorem readDecimal?_positional (negative : Bool) (nonzero : 0 < digits)
    (lower : -330 ≤ (digitsOf digits).length + exponent)
    (upper : (digitsOf digits).length + exponent ≤ 310) :
    ∃ literal, readDecimal? negative (positional digits exponent) = some literal
      ∧ literal.value = ofQuotient negative (digits * tenTo exponent.toNat)
        (tenTo (-exponent).toNat) := by
  rcases Int.lt_or_le exponent 0 with fine | whole
  · obtain ⟨zeros, front, fraction, spelled, joined, nonempty, places⟩ :=
      positional_of_neg digits fine
    have all {digit : Char} (member : digit ∈ front ++ fraction) : isDigit digit = true :=
      isDigit_of_mem_padded (joined ▸ member)
    have dropped : (front ++ fraction).dropWhile (· == '0') = digitsOf digits := by
      rw [joined, List.dropWhile_append_of_pos fun zero member => by
        simp [List.eq_of_mem_replicate member]]
      simpa using dropWhile_zero_digitsOf nonzero []
    rw [spelled, readDecimal?_point negative nonempty
      (fun _ member => all (List.mem_append_left _ member))
      (fun _ member => all (List.mem_append_right _ member))]
    have moved : -(fraction.length : Int) = exponent := by omega
    rw [moved]
    refine ⟨_, rfl, ?_⟩
    show decimalValue _ _ _ = _
    rw [decimalValue_eq dropped (digitsOf_ne_nil _) lower upper, valueOfDigits_digitsOf]
  · have all : ∀ digit ∈ digitsOf digits ++ List.replicate exponent.toNat '0',
        isDigit digit = true := fun _ => isDigit_of_mem_scaled
    have nonempty : digitsOf digits ++ List.replicate exponent.toNat '0' ≠ [] := by
      simp [digitsOf_ne_nil]
    rw [positional_of_nonneg whole, readDecimal?_whole negative nonempty all]
    refine ⟨_, rfl, ?_⟩
    have place : (digitsOf digits ++ List.replicate exponent.toNat '0').length + (0 : Int)
        = (digitsOf digits).length + exponent := by
      rw [List.length_append, List.length_replicate]
      omega
    show decimalValue _ _ _ = _
    rw [decimalValue_eq (dropWhile_zero_digitsOf nonzero _) nonempty (by omega) (by omega),
      valueOfDigits_zeros_behind]
    have unscaled : (-exponent).toNat = 0 := by omega
    rw [unscaled]
    exact congrArg (ofQuotient negative · 1) (Nat.mul_one _)

/-- A positional text holds digits and a point. -/
theorem isDigit_or_point_of_mem_positional {character : Char}
    (member : character ∈ positional digits exponent) :
    isDigit character = true ∨ character = '.' := by
  rcases Int.lt_or_le exponent 0 with fine | whole
  · obtain ⟨zeros, front, fraction, spelled, joined, -, -⟩ := positional_of_neg digits fine
    rw [spelled, List.mem_append, List.mem_cons] at member
    rcases member with inFront | point | behind
    · exact .inl (isDigit_of_mem_padded (joined ▸ List.mem_append_left _ inFront))
    · exact .inr point
    · exact .inl (isDigit_of_mem_padded (joined ▸ List.mem_append_right _ behind))
  · rw [positional_of_nonneg whole] at member
    exact .inl (isDigit_of_mem_scaled member)

/-- A positional text starts with a digit. -/
theorem exists_cons_positional (digits : Nat) (exponent : Int) :
    ∃ first rest, positional digits exponent = first :: rest ∧ isDigit first = true := by
  have front {whole rest : List Char} (nonempty : whole ≠ [])
      (all : ∀ digit ∈ whole, isDigit digit = true) :
      ∃ first later, whole ++ rest = first :: later ∧ isDigit first = true := by
    obtain ⟨first, later, rfl⟩ := List.exists_cons_of_ne_nil nonempty
    exact ⟨first, later ++ rest, rfl, all first List.mem_cons_self⟩
  rcases Int.lt_or_le exponent 0 with fine | whole
  · obtain ⟨zeros, whole, fraction, spelled, joined, nonempty, -⟩ := positional_of_neg digits fine
    rw [spelled]
    exact front nonempty fun digit member =>
      isDigit_of_mem_padded (joined ▸ List.mem_append_left _ member)
  · rw [positional_of_nonneg whole]
    exact front (digitsOf_ne_nil digits) fun _ => isDigit_of_mem_digitsOf

end Positional

/-! ## Reading a text back -/

/-- A sign is split off in front of a digit. -/
theorem splitSign_digit (negative : Bool) {first : Char} (digit : isDigit first = true)
    (rest : List Char) :
    splitSign ((if negative then ['-'] else []) ++ first :: rest) = (negative, first :: rest) := by
  cases negative with
  | true => rfl
  | false =>
    have noMinus : first ≠ '-' := by
      rintro rfl
      cases digit
    have noPlus : first ≠ '+' := by
      rintro rfl
      cases digit
    show splitSign (first :: rest) = _
    unfold splitSign
    split
    · rename_i same
      exact absurd (List.cons.inj same).1 noMinus
    · rename_i same
      exact absurd (List.cons.inj same).1 noPlus
    · rfl

/-- The double that is not zero is read back from its digits. -/
theorem readLiteral?_positional {value : Float} {steps : Nat} (positive : 0 < steps)
    (sized : size value = .finite steps) :
    ∃ literal, readLiteral? ((if isNegative value then ['-'] else [])
        ++ positional (shortestDecimal steps).1 (shortestDecimal steps).2) = some literal
      ∧ literal.value = value := by
  have representable := representable_of_size sized
  have near := near_shortestDecimal representable positive
  obtain ⟨literal, read, meant⟩ := readDecimal?_positional (isNegative value)
    (pos_of_near positive near) (le_position positive near)
    (position_le positive near representable)
  obtain ⟨first, rest, spelled, digit⟩ :=
    exists_cons_positional (shortestDecimal steps).1 (shortestDecimal steps).2
  refine ⟨literal, ?_, ?_⟩
  · rw [readLiteral?, spelled, splitSign_digit _ digit, ← spelled]
    simp only [read]
  · rw [meant, ofQuotient, nearestSteps_of_near representable.gap_dvd (tenTo_pos _) near]
    exact ofSteps_of_size sized

/-- Every number is read back from its shortest text. -/
theorem readFloat?_shortest {value : Float} (number : size value ≠ .undefined) :
    readFloat? (shortest value) = some value := by
  rw [readFloat?, shortest]
  cases sized : size value with
  | undefined => exact absurd sized number
  | infinite =>
    have read (negative : Bool) : readLiteral? ((if negative then ['-'] else []) ++ ['i', 'n', 'f'])
        = some (.infinity negative) := by
      cases negative with
      | true => decide
      | false => decide
    simp only [String.toList_ofList, read, Option.map_some, Literal.value,
      ofSteps_of_infinite sized]
  | finite steps =>
    cases steps with
    | zero =>
      have read (negative : Bool) : readLiteral? ((if negative then ['-'] else []) ++ ['0'])
          = some (.decimal negative ['0'] 0) := by
        cases negative with
        | true => decide
        | false => decide
      simp only [String.toList_ofList, read, Option.map_some, Literal.value]
      rw [decimalValue_zero (by decide), ofSteps_of_size sized]
    | succ steps =>
      obtain ⟨literal, read, meant⟩ := readLiteral?_positional (Nat.succ_pos steps) sized
      simp only [String.toList_ofList, read, Option.map_some, meant]

/-- The text of a finite double is digits, with a point or none, behind its sign. -/
theorem exists_toList_shortest {value : Float} {steps : Nat} (sized : size value = .finite steps) :
    ∃ written, (shortest value).toList = (if isNegative value then ['-'] else []) ++ written
      ∧ written ≠ [] ∧ ∀ character ∈ written, isDigit character = true ∨ character = '.' := by
  rw [shortest, sized]
  cases steps with
  | zero =>
    refine ⟨['0'], String.toList_ofList, by simp, fun character member => ?_⟩
    rw [List.mem_singleton.mp member]
    exact .inl (by decide)
  | succ steps =>
    refine ⟨positional (shortestDecimal (steps + 1)).1 (shortestDecimal (steps + 1)).2,
      String.toList_ofList, ?_, fun _ => isDigit_or_point_of_mem_positional⟩
    obtain ⟨first, rest, spelled, -⟩ :=
      exists_cons_positional (shortestDecimal (steps + 1)).1 (shortestDecimal (steps + 1)).2
    rw [spelled]
    exact List.cons_ne_nil _ _

/-- The text of a finite double that is not negative holds digits and a point. -/
theorem isDigit_or_point_of_mem_shortest {value : Float} {steps : Nat}
    (sized : size value = .finite steps) (upright : isNegative value = false) {character : Char}
    (member : character ∈ (shortest value).toList) :
    isDigit character = true ∨ character = '.' := by
  obtain ⟨written, spelled, -, characters⟩ := exists_toList_shortest sized
  rw [spelled, upright] at member
  exact characters character member

/-- Numbers with the same shortest text are the same. -/
theorem shortest_injective {left right : Float} (leftNumber : size left ≠ .undefined)
    (rightNumber : size right ≠ .undefined) (same : shortest left = shortest right) :
    left = right := by
  have read := readFloat?_shortest leftNumber
  rw [same, readFloat?_shortest rightNumber] at read
  exact (Option.some.inj read).symm

end DeltaStudy.Numeral
