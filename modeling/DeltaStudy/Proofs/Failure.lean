import DeltaStudy.Failure

/-!
# Results that may be failures

When a computation that may fail has a value, by how it is put together.
-/

namespace DeltaStudy

variable {ε α β : Type}

/-- A computation of two steps has a value if its steps do. -/
theorem bind_eq_ok_iff {first : Except ε α} {second : α → Except ε β} {value : β} :
    first >>= second = .ok value ↔ ∃ between, first = .ok between ∧ second between = .ok value := by
  cases first with
  | error failure => simp [bind, Except.bind]
  | ok between => simp [bind, Except.bind]

/-- It has none if its first step has none, or its second step behind the first. -/
theorem bind_eq_error_iff {first : Except ε α} {second : α → Except ε β} {failure : ε} :
    first >>= second = .error failure ↔ first = .error failure
      ∨ ∃ between, first = .ok between ∧ second between = .error failure := by
  cases first with
  | error failure => simp [bind, Except.bind]
  | ok between => simp [bind, Except.bind]

theorem map_eq_ok_iff {f : α → β} {computation : Except ε α} {result : β} :
    computation.map f = .ok result ↔ ∃ value, computation = .ok value ∧ f value = result := by
  cases computation <;> simp [Except.map]

end DeltaStudy
