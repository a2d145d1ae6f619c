import DeltaStudy.Artifact.Measurements
import DeltaStudy.Proofs.Numeral.Arithmetic
import DeltaStudy.Proofs.Numeral.Texts

/-!
# Which rounds are read

A round is read from a numeral below `2^64`, or else from a decimal whose double is a whole
number below `2^64`, and it is that number. There is one exception: a decimal that denotes
`2^64` itself is let through by the limit, which no double lies just below of, and is read as
the last word.
-/

namespace DeltaStudy.Artifact

open Numeral

variable {text : String} {round : UInt64} {value : Float}

theorem isNumber_roundLimit : IsNumber roundLimit (twoTo 64) := by
  show IsSteps roundLimit _
  decide +kernel

/-- A whole number up to the limit is a round, which is the last word at the limit. -/
theorem roundOfFloat?_eq_of_isNumber {number : Nat} (isNumber : IsNumber value number)
    (bounded : number ≤ twoTo 64) :
    roundOfFloat? value = some (UInt64.ofNat (min number (twoTo 64 - 1))) := by
  have nonneg : 0 ≤ exactSteps value := isNumber.exact ▸ Int.natCast_nonneg _
  have accepted : (value.isFinite && value ≥ 0 && isWhole value && value ≤ roundLimit) = true := by
    simp only [Bool.and_eq_true, decide_eq_true_eq]
    exact ⟨⟨⟨isNumber.finite, (nonneg_iff isNumber.finite).mpr nonneg⟩,
      (isWhole_iff isNumber.finite nonneg).mpr ⟨number, isNumber⟩⟩,
      (isNumber.le_iff isNumber_roundLimit).mpr bounded⟩
  rw [roundOfFloat?, if_pos accepted, ← isNumber.toNat_toUInt64, UInt64.ofNat_toNat]

/-- What is a round is a whole number up to the limit. -/
theorem isNumber_of_roundOfFloat? (read : roundOfFloat? value = some round) :
    ∃ number ≤ twoTo 64, IsNumber value number := by
  rw [roundOfFloat?] at read
  split at read
  case isTrue accepted =>
    simp only [Bool.and_eq_true, decide_eq_true_eq] at accepted
    obtain ⟨⟨⟨finite, nonneg⟩, whole⟩, bounded⟩ := accepted
    obtain ⟨number, isNumber⟩ := (isWhole_iff finite ((nonneg_iff finite).mp nonneg)).mp whole
    exact ⟨number, (isNumber.le_iff isNumber_roundLimit).mp bounded, isNumber⟩
  case isFalse => cases read

/-- The doubles that are rounds, and the rounds that they are. -/
theorem roundOfFloat?_eq_some_iff :
    roundOfFloat? value = some round ↔
      IsNumber value round.toNat ∨ IsNumber value (twoTo 64) ∧ round.toNat = twoTo 64 - 1 := by
  constructor
  · intro read
    obtain ⟨number, bounded, isNumber⟩ := isNumber_of_roundOfFloat? read
    have same := (roundOfFloat?_eq_of_isNumber isNumber bounded).symm.trans read
    have counted := congrArg UInt64.toNat (Option.some.inj same)
    have fits : min number (twoTo 64 - 1) < UInt64.size :=
      Nat.lt_of_le_of_lt (Nat.min_le_right _ _) (by decide)
    rw [UInt64.toNat_ofNat_of_lt' fits] at counted
    rcases Nat.lt_or_ge number (twoTo 64) with below | limit
    · refine .inl ?_
      rwa [← counted, Nat.min_eq_left (by omega)]
    · obtain rfl : number = twoTo 64 := Nat.le_antisymm bounded limit
      exact .inr ⟨isNumber, counted.symm⟩
  · rintro (isNumber | ⟨isNumber, last⟩)
    · have below : round.toNat < twoTo 64 := round.toNat_lt
      rw [roundOfFloat?_eq_of_isNumber isNumber (Nat.le_of_lt below), Nat.min_eq_left (by omega),
        UInt64.ofNat_toNat]
    · rw [roundOfFloat?_eq_of_isNumber isNumber (Nat.le_refl _), Nat.min_eq_right (by omega),
        ← last, UInt64.ofNat_toNat]

/-- The number that a text denotes as a round: that of a numeral, or else that of a decimal
whose double is a whole number. -/
def Denotes (text : String) (number : Nat) : Prop :=
  IsNumeral (twoTo 64) text number
  ∨ (∀ other, ¬ IsNumeral (twoTo 64) text other)
    ∧ ∃ value, readFloat? text = some value ∧ IsNumber value number

/-- A text denotes one number at most. -/
theorem Denotes.unique {number number' : Nat} (denotes : Denotes text number)
    (denotes' : Denotes text number') : number = number' := by
  rcases denotes with isNumeral | ⟨noNumeral, value, read, isNumber⟩
  · rcases denotes' with isNumeral' | ⟨noNumeral', -⟩
    · exact isNumeral.unique isNumeral'
    · exact absurd isNumeral (noNumeral' number)
  · rcases denotes' with isNumeral' | ⟨-, value', read', isNumber'⟩
    · exact absurd isNumeral' (noNumeral number')
    · obtain rfl := Option.some.inj (read.symm.trans read')
      exact isNumber.unique isNumber'

theorem readRound_eq_ok_iff :
    readRound text = .ok round ↔
      Denotes text round.toNat ∨ Denotes text (twoTo 64) ∧ round.toNat = twoTo 64 - 1 := by
  have noNumeral : ¬ IsNumeral (twoTo 64) text (twoTo 64) :=
    fun isNumeral => Nat.lt_irrefl _ isNumeral.lt_limit
  rw [readRound]
  cases word : readWord? text with
  | some read =>
    have isNumeral := readWord?_eq_some_iff.mp word
    have denotes {number : Nat} : Denotes text number ↔ IsNumeral (twoTo 64) text number :=
      or_iff_left fun decimal => decimal.1 _ isNumeral
    rw [denotes, denotes, ← readWord?_eq_some_iff, word]
    simp [noNumeral]
  | none =>
    have missing := readWord?_eq_none_iff.mp word
    have denotes {number : Nat} : Denotes text number ↔
        ∃ value, readFloat? text = some value ∧ IsNumber value number :=
      ⟨fun denotes => (denotes.resolve_left (missing _)).2, fun decimal => .inr ⟨missing, decimal⟩⟩
    rw [denotes, denotes]
    cases readFloat? text with
    | none => simp
    | some value =>
      simp only [Option.bind_some, Option.some.injEq, exists_eq_left']
      rw [← roundOfFloat?_eq_some_iff]
      cases roundOfFloat? value with
      | none => simp
      | some read => simp

/-- The round that is read from a text is the number that the text denotes, unless that is
`2^64`, which is read as the last word. So texts that denote different numbers are different
rounds, unless one of the numbers is `2^64`. -/
theorem readRound_exact (text : String) :
    (∀ round, readRound text = .ok round ↔
      Denotes text round.toNat ∨ Denotes text (twoTo 64) ∧ round.toNat = twoTo 64 - 1)
    ∧ ∀ other number number' round, Denotes text number → Denotes other number' →
      readRound text = .ok round → readRound other = .ok round →
      number ≠ number' → number = twoTo 64 ∨ number' = twoTo 64 := by
  refine ⟨fun round => readRound_eq_ok_iff, ?_⟩
  intro other number number' round denotes denotes' read read' different
  rcases readRound_eq_ok_iff.mp read with exact | ⟨limit, -⟩
  · rcases readRound_eq_ok_iff.mp read' with exact' | ⟨limit', -⟩
    · exact absurd ((denotes.unique exact).trans (exact'.unique denotes')) different
    · exact .inr (denotes'.unique limit')
  · exact .inl (denotes.unique limit)

/-- A decimal that is `2^64` is let through, and becomes another round. -/
theorem readRound_limit :
    Denotes "18446744073709551616" (twoTo 64)
    ∧ readRound "18446744073709551616" = .ok 18446744073709551615 := by
  have unread : readWord? "18446744073709551616" = none := by decide +kernel
  have denoted : readFloat? "18446744073709551616" = some roundLimit := by decide +kernel
  exact ⟨.inr ⟨readWord?_eq_none_iff.mp unread, roundLimit, denoted, isNumber_roundLimit⟩,
    by decide +kernel⟩

end DeltaStudy.Artifact
