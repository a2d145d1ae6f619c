import DeltaStudy.Trend.Average

/-!
# What a window sees

The moving average at a position is the mean of the window that ends there, summed afresh.
So it depends on the values in the window alone: neither on later values nor on older
ones, not even by rounding. Averages are compared as doubles and not up to an error.
-/

namespace DeltaStudy.Trend

/-! ## Windows -/

section Windows

variable {window position : Nat}

/-- A window ends at its position and holds as many values as it may, if there are so many. -/
theorem length_windowAt {values : List Float} (window : Nat) (inside : position < values.length) :
    (windowAt values window position).length = min window (position + 1) := by
  rw [windowAt, List.length_drop, List.length_take_of_le inside]
  omega

/-- A window is a part of the values. -/
theorem append_windowAt_append (values : List Float) (window position : Nat) :
    values.take (position + 1 - window) ++ windowAt values window position
      ++ values.drop (position + 1) = values := by
  have front : values.take (position + 1 - window)
      = (values.take (position + 1)).take (position + 1 - window) := by
    rw [List.take_take, Nat.min_eq_left (Nat.sub_le _ _)]
  rw [windowAt, front, List.take_append_drop, List.take_append_drop]

/-- No window looks ahead. -/
theorem windowAt_append {front : List Float} (inside : position < front.length)
    (back : List Float) :
    windowAt (front ++ back) window position = windowAt front window position := by
  rw [windowAt, windowAt, List.take_append_of_le_length inside]

/-- A window that fits between the older values and its position does not see them. -/
theorem windowAt_length_add (older recent : List Float) (fits : window ≤ position + 1) :
    windowAt (older ++ recent) window (older.length + position)
      = windowAt recent window position := by
  have start : older.length + position + 1 - window
      = older.length + (position + 1 - window) := by omega
  rw [windowAt, windowAt, start, Nat.add_assoc, List.take_length_add_append,
    List.drop_length_add_append]

/-- A window that is not smaller than the values sees all up to its position. -/
theorem windowAt_of_length_le {values : List Float} (wide : values.length ≤ window)
    (inside : position < values.length) :
    windowAt values window position = values.take (position + 1) := by
  rw [windowAt, Nat.sub_eq_zero_of_le (by omega), List.drop_zero]

end Windows

/-! ## Averages -/

/-- The average at every position. -/
def averagesOf (values : List Float) (window : Nat) : List Float :=
  (List.range values.length).map fun position => mean (windowAt values window position)

theorem movingAverage_of_pos {window : Nat} (positive : 0 < window) (values : List Float) :
    movingAverage values window = .ok (averagesOf values window) :=
  if_neg (Nat.ne_of_gt positive)

theorem getElem?_averagesOf {values : List Float} {window position : Nat}
    (inside : position < values.length) :
    (averagesOf values window)[position]? = some (mean (windowAt values window position)) := by
  rw [averagesOf, List.getElem?_map, List.getElem?_range inside, Option.map_some]

theorem averagesOf_append_take (front back : List Float) (window : Nat) :
    (averagesOf (front ++ back) window).take front.length = averagesOf front window := by
  rw [averagesOf, ← List.map_take, List.take_range, List.length_append,
    Nat.min_eq_left (Nat.le_add_right _ _)]
  refine List.map_congr_left fun position member => ?_
  rw [windowAt_append (List.mem_range.mp member)]

theorem averagesOf_of_length_le {values : List Float} {window window' : Nat}
    (wide : values.length ≤ window) (wide' : values.length ≤ window') :
    averagesOf values window = averagesOf values window' := by
  refine List.map_congr_left fun position member => ?_
  have inside := List.mem_range.mp member
  rw [windowAt_of_length_le wide inside, windowAt_of_length_le wide' inside]

/-- What can be relied on in the moving averages of values. -/
structure Trailing (values : List Float) (window : Nat) (averages : List Float) : Prop where
  length_eq : averages.length = values.length
  /-- The window of a position is a part of the values that ends there, and is not empty. -/
  within : ∀ position < values.length, ∃ before after,
    before ++ windowAt values window position ++ after = values
      ∧ before.length + (windowAt values window position).length = position + 1
      ∧ 0 < (windowAt values window position).length
      ∧ (windowAt values window position).length = min window (position + 1)
  mean_eq : ∀ position < values.length,
    averages[position]? = some (mean (windowAt values window position))
  /-- Later values change no average. -/
  front : ∀ front back, values = front ++ back →
    movingAverage front window = .ok (averages.take front.length)
  /-- Values that are older than the window change no average. -/
  recent : ∀ older recent, values = older ++ recent → ∀ older' position,
    window ≤ position + 1 → position < recent.length →
    ∃ averages', movingAverage (older' ++ recent) window = .ok averages'
      ∧ ∃ average, averages[older.length + position]? = some average
        ∧ averages'[older'.length + position]? = some average
  /-- All windows that are not smaller than the values have the same averages. -/
  wide : values.length ≤ window → ∀ window', 0 < window' → values.length ≤ window' →
    movingAverage values window' = .ok averages

theorem trailing_averagesOf {window : Nat} (positive : 0 < window) (values : List Float) :
    Trailing values window (averagesOf values window) where
  length_eq := by rw [averagesOf, List.length_map, List.length_range]
  within := by
    intro position inside
    have length := length_windowAt window inside
    refine ⟨_, _, append_windowAt_append values window position, ?_, ?_, length⟩
    · rw [List.length_take, length]
      omega
    · omega
  mean_eq _ inside := getElem?_averagesOf inside
  front := by
    rintro front back rfl
    rw [averagesOf_append_take, movingAverage_of_pos positive]
  recent := by
    rintro older recent rfl older' position fits inside
    refine ⟨_, movingAverage_of_pos positive _, mean (windowAt recent window position), ?_, ?_⟩
    · rw [getElem?_averagesOf (by simpa using inside), windowAt_length_add _ _ fits]
    · rw [getElem?_averagesOf (by simpa using inside), windowAt_length_add _ _ fits]
  wide := by
    intro wide window' positive' wide'
    rw [movingAverage_of_pos positive', averagesOf_of_length_le wide' wide]

/-- Values are smoothed unless the window is empty, and every average is that of its
window, whatever stands before and behind it. -/
theorem movingAverage_trailing (values : List Float) (window : Nat) :
    match movingAverage values window with
    | .ok averages => 0 < window ∧ Trailing values window averages
    | .error failure => window = 0 ∧ failure.kind = .configuration := by
  by_cases empty : window = 0
  · rw [movingAverage, if_pos empty]
    exact ⟨empty, rfl⟩
  · have positive := Nat.pos_of_ne_zero empty
    rw [movingAverage_of_pos positive]
    exact ⟨positive, trailing_averagesOf positive values⟩

/-- The large value is gone with the first window. A sum that is carried along would have
lost the value behind it. -/
example : (movingAverage [1e16, 1, 1, 1] 2).toOption = some [1e16, 5e15, 1, 1] := by
  decide +kernel

end DeltaStudy.Trend
