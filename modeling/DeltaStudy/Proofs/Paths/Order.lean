import Mathlib.Tactic.ByContra
import DeltaStudy.Path

/-!
# The order of paths

Paths are ordered by their components: no path precedes itself, the order is transitive, and
of two paths that are not the same one precedes the other. A path precedes whatever another
spelling of it precedes.
-/

namespace DeltaStudy

/-! ## Components -/

namespace Component

theorem not_precedes_self (component : Component) : component.precedes component = false := by
  cases component with
  | name text => exact decide_eq_false (String.lt_irrefl text)
  | root => rfl
  | current => rfl
  | parent => rfl

/-- The kinds decide first, and names among themselves. -/
theorem precedes_iff {left right : Component} :
    left.precedes right = true ↔ left.rank < right.rank
      ∨ ∃ text text', left = .name text ∧ right = .name text' ∧ text < text' := by
  cases left <;> cases right <;> simp [precedes, rank]

theorem precedes_trans {first second third : Component} (below : first.precedes second = true)
    (above : second.precedes third = true) : first.precedes third = true := by
  rw [precedes_iff] at below above ⊢
  rcases below with below | ⟨text, text', rfl, rfl, below⟩
  · rcases above with above | ⟨_, _, rfl, rfl, -⟩
    · exact .inl (Nat.lt_trans below above)
    · exact .inl below
  · rcases above with above | ⟨_, text'', equal, rfl, above⟩
    · exact .inl above
    · cases equal
      exact .inr ⟨text, text'', rfl, rfl, String.lt_trans below above⟩

theorem eq_of_not_precedes {left right : Component} (notBefore : ¬ left.precedes right = true)
    (notBehind : ¬ right.precedes left = true) : left = right := by
  rw [precedes_iff, not_or, Nat.not_lt] at notBefore notBehind
  have sameRank : left.rank = right.rank := Nat.le_antisymm notBehind.1 notBefore.1
  cases left with
  | name text =>
    cases right with
    | name text' =>
      have equal : text = text' := by
        refine String.le_antisymm ?_ ?_
        · exact String.not_lt.mp fun below => notBehind.2 ⟨_, _, rfl, rfl, below⟩
        · exact String.not_lt.mp fun below => notBefore.2 ⟨_, _, rfl, rfl, below⟩
      rw [equal]
    | _ => cases sameRank
  | root =>
    cases right with
    | root => rfl
    | _ => cases sameRank
  | current =>
    cases right with
    | current => rfl
    | _ => cases sameRank
  | parent =>
    cases right with
    | parent => rfl
    | _ => cases sameRank

end Component

namespace Path

/-! ## Lists of components -/

theorem not_componentsPrecede_self (components : List Component) :
    componentsPrecede components components = false := by
  induction components with
  | nil => rfl
  | cons head tail inductionHypothesis => rw [componentsPrecede, if_pos rfl, inductionHypothesis]

/-- The first components that differ decide. -/
theorem componentsPrecede_cons_iff {left right : Component} {lefts rights : List Component} :
    componentsPrecede (left :: lefts) (right :: rights) = true ↔
      left.precedes right = true ∨ left = right ∧ componentsPrecede lefts rights = true := by
  rw [componentsPrecede]
  by_cases equal : left = right
  · subst equal
    simp [Component.not_precedes_self]
  · simp [equal]

theorem componentsPrecede_trans {first second third : List Component}
    (below : componentsPrecede first second = true)
    (above : componentsPrecede second third = true) : componentsPrecede first third = true := by
  induction first generalizing second third with
  | nil =>
    cases third with
    | nil => cases second <;> cases above
    | cons _ _ => rfl
  | cons left lefts inductionHypothesis =>
    cases second with
    | nil => cases below
    | cons middle middles =>
      cases third with
      | nil => cases above
      | cons right rights =>
        rw [componentsPrecede_cons_iff] at below above ⊢
        rcases below with below | ⟨rfl, below⟩
        · rcases above with above | ⟨rfl, -⟩
          · exact .inl (Component.precedes_trans below above)
          · exact .inl below
        · rcases above with above | ⟨rfl, above⟩
          · exact .inl above
          · exact .inr ⟨rfl, inductionHypothesis below above⟩

theorem eq_of_not_componentsPrecede {left right : List Component}
    (notBefore : ¬ componentsPrecede left right = true)
    (notBehind : ¬ componentsPrecede right left = true) : left = right := by
  induction left generalizing right with
  | nil =>
    cases right with
    | nil => rfl
    | cons _ _ => exact absurd rfl notBefore
  | cons head tail inductionHypothesis =>
    cases right with
    | nil => exact absurd rfl notBehind
    | cons head' tail' =>
      rw [componentsPrecede_cons_iff, not_or] at notBefore notBehind
      have equal := Component.eq_of_not_precedes notBefore.1 notBehind.1
      subst equal
      have later := inductionHypothesis (fun before => notBefore.2 ⟨rfl, before⟩)
        fun behind => notBehind.2 ⟨rfl, behind⟩
      rw [later]

/-! ## Paths -/

theorem same_iff {left right : Path} :
    left.same right = true ↔ left.components = right.components :=
  beq_iff_eq

theorem same_self (path : Path) : path.same path = true :=
  same_iff.mpr rfl

theorem same_comm (left right : Path) : left.same right = right.same left := by
  rw [Bool.eq_iff_iff, same_iff, same_iff]
  exact eq_comm

/-- The same paths are the same as others. -/
theorem same_congr {left right : Path} (same : left.same right = true) (other : Path) :
    other.same left = other.same right := by
  rw [Bool.eq_iff_iff, same_iff, same_iff, same_iff.mp same]

theorem not_precedes_of_same {left right : Path} (same : left.same right = true) :
    ¬ left.precedes right = true := by
  rw [precedes, same_iff.mp same, not_componentsPrecede_self]
  exact Bool.false_ne_true

theorem precedes_trans {first second third : Path} (below : first.precedes second = true)
    (above : second.precedes third = true) : first.precedes third = true :=
  componentsPrecede_trans below above

/-- Of two paths that are not the same one precedes the other. -/
theorem precedes_of_not_precedes {left right : Path} (different : ¬ left.same right = true)
    (notBefore : ¬ left.precedes right = true) : right.precedes left = true := by
  by_contra notBehind
  exact different (same_iff.mpr (eq_of_not_componentsPrecede notBefore notBehind))

theorem not_precedes_of_precedes {left right : Path} (before : left.precedes right = true) :
    ¬ right.precedes left = true := by
  intro behind
  exact not_precedes_of_same (same_self left) (precedes_trans before behind)

theorem not_precedes_trans {first second third : Path} (below : ¬ second.precedes first = true)
    (above : ¬ third.precedes second = true) : ¬ third.precedes first = true := by
  intro behind
  by_cases same : third.same second = true
  · rw [precedes, same_iff.mp same] at behind
    exact below behind
  · exact below (precedes_trans (precedes_of_not_precedes same above) behind)

/-- A list of paths that is sorted by merging is in their order. -/
theorem pairwise_mergeSort (paths : List Path) :
    (paths.mergeSort fun left right => !right.precedes left).Pairwise fun earlier later =>
      ¬ later.precedes earlier = true := by
  have transitive (first second third : Path) (below : (!second.precedes first) = true)
      (above : (!third.precedes second) = true) : (!third.precedes first) = true := by
    rw [Bool.not_eq_true', ← Bool.not_eq_true] at below above ⊢
    exact not_precedes_trans below above
  have total (left right : Path) :
      (!right.precedes left || !left.precedes right) = true := by
    cases before : left.precedes right with
    | false => simp
    | true => simp [not_precedes_of_precedes before]
  exact (List.pairwise_mergeSort transitive total paths).imp fun ordered => by simpa using ordered

end Path

end DeltaStudy
