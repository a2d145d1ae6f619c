import Mathlib.Data.Finset.Max
import DeltaStudy.Proofs.Artifact.Columns

/-!
# Which columns fill gaps

A field that has to be there and has no named column leaves a gap. Gaps are filled with
columns that no field has by name, so columns are resolved exactly if there are enough of
these. Every gap gets its preferred column if that is free, and else the lowest free one.

Nothing is said here about what is in the columns.
-/

namespace DeltaStudy.Artifact

/-! ## Columns that are free -/

/-- The columns that fields have by name. -/
def claimed (header : List String) : Finset Nat :=
  (namedColumns header).toFinset

/-- The columns that no field has by name. -/
def unclaimed (header : List String) : Finset Nat :=
  Finset.range header.length \ claimed header

/-- The number of fields that have to be there and have no named column. -/
def gapCount (header : List String) : Nat :=
  [Field.round, .difficulty].countP fun field => (namedColumn? header field).isNone

section Claimed

variable {header : List String} {field : Field} {column : Nat}

theorem namedColumn?_eq_none_iff :
    namedColumn? header field = none ↔ ∀ column, ¬ Bears header field column := by
  simp only [Option.eq_none_iff_forall_ne_some, ne_eq, namedColumn?_eq_some_iff]

theorem mem_claimed_iff : column ∈ claimed header ↔ ∃ field, Bears header field column := by
  rw [claimed, List.mem_toFinset]
  constructor
  · simp only [namedColumns, List.mem_filterMap, List.mem_cons, List.not_mem_nil, or_false, id]
    rintro ⟨_, rfl | rfl | rfl, named⟩
    all_goals exact ⟨_, namedColumn?_eq_some_iff.mp named⟩
  · rintro ⟨field, bears⟩
    exact bears.mem_namedColumns

/-- Every column is claimed or not. -/
theorem card_claimed_add_card_unclaimed (header : List String) :
    (claimed header).card + (unclaimed header).card = header.length := by
  have within : claimed header ⊆ Finset.range header.length := by
    intro column isClaimed
    obtain ⟨field, bears⟩ := mem_claimed_iff.mp isClaimed
    exact Finset.mem_range.mpr bears.lt_length
  rw [unclaimed, Nat.add_comm, Finset.card_sdiff_add_card_eq_card within, Finset.card_range]

theorem Bears.not_mem_unclaimed (bears : Bears header field column) :
    column ∉ unclaimed header := by
  rw [unclaimed, Finset.mem_sdiff, not_and_not_right]
  exact fun _ => mem_claimed_iff.mpr ⟨field, bears⟩

/-- Positions fill gaps where there are some. -/
theorem lacksColumn_iff : lacksColumn header = true ↔ 0 < gapCount header := by
  rw [gapCount, List.countP_pos_iff]
  simp [lacksColumn]

end Claimed

/-! ## Filling -/

/-- A gap is filled with the preferred column if that is free, and else with the lowest
free one. -/
def Fills (free : Finset Nat) (preferred column : Nat) : Prop :=
  if preferred ∈ free then column = preferred else IsLeast (free : Set Nat) column

theorem Fills.mem {free : Finset Nat} {preferred column : Nat}
    (fills : Fills free preferred column) : column ∈ free := by
  unfold Fills at fills
  split at fills
  case isTrue isFree => exact fills ▸ isFree
  case isFalse => exact fills.1

/-- A gap can be filled if any column is free. -/
theorem exists_fills {free : Finset Nat} (nonempty : free.Nonempty) (preferred : Nat) :
    ∃ column, Fills free preferred column := by
  unfold Fills
  split
  case isTrue => exact ⟨preferred, rfl⟩
  case isFalse => exact ⟨_, free.isLeast_min' nonempty⟩

section Free

variable {count preferred column : Nat} {taken : List Nat}

theorem mem_free_iff :
    column ∈ Finset.range count \ taken.toFinset ↔ column < count ∧ column ∉ taken := by
  rw [Finset.mem_sdiff, Finset.mem_range, List.mem_toFinset]

/-- The search for a free column ends at the lowest one. -/
theorem find?_free_eq_some_iff :
    ((List.range count).find? fun column => !taken.contains column) = some column
      ↔ IsLeast (↑(Finset.range count \ taken.toFinset) : Set Nat) column := by
  simp only [List.find?_range_eq_some, Bool.not_not, Bool.not_eq_true', List.contains_iff_mem,
    List.mem_range, IsLeast, mem_lowerBounds, Finset.mem_coe, mem_free_iff, and_imp]
  constructor
  · rintro ⟨isFree, inside, before⟩
    refine ⟨⟨inside, by simpa using isFree⟩, fun place _ free => Nat.le_of_not_lt fun earlier => ?_⟩
    exact free (before place earlier)
  · rintro ⟨⟨inside, isFree⟩, least⟩
    refine ⟨by simpa using isFree, inside, fun place earlier => ?_⟩
    by_contra free
    exact Nat.not_le.mpr earlier (least place (earlier.trans inside) free)

theorem freeColumn?_eq_some_iff :
    freeColumn? count taken preferred = some column
      ↔ Fills (Finset.range count \ taken.toFinset) preferred column := by
  have fits : (preferred < count && !taken.contains preferred) = true
      ↔ preferred ∈ Finset.range count \ taken.toFinset := by
    rw [mem_free_iff]
    simp
  unfold freeColumn? Fills
  by_cases isFree : preferred ∈ Finset.range count \ taken.toFinset
  · rw [if_pos (fits.mpr isFree), if_pos isFree, Option.some.injEq, eq_comm]
  · rw [if_neg (mt fits.mp isFree), if_neg isFree, find?_free_eq_some_iff]

theorem freeColumn?_isSome_iff :
    (freeColumn? count taken preferred).isSome = true
      ↔ (Finset.range count \ taken.toFinset).Nonempty := by
  rw [Option.isSome_iff_exists]
  simp only [freeColumn?_eq_some_iff]
  exact ⟨fun ⟨column, fills⟩ => ⟨column, fills.mem⟩, fun nonempty => exists_fills nonempty _⟩

end Free

/-! ## Fields and their columns -/

/-- The column that a field is given: its own one, or else one that fills its gap. -/
structure Given (header : List String) (free : Finset Nat) (preferred : Nat) (field : Field)
    (column : Nat) : Prop where
  named : ∀ own, Bears header field own → column = own
  fills : (∀ own, ¬ Bears header field own) → Fills free preferred column

section Given

variable {header : List String} {taken : List Nat} {preferred : Nat} {field : Field}
  {column : Nat}

theorem settled_iff :
    Settled header taken preferred field column
      ↔ Given header (Finset.range header.length \ taken.toFinset) preferred field column := by
  rw [Settled, freeColumn?_eq_some_iff]
  constructor
  · rintro (named | ⟨gap, fills⟩)
    · have bears := namedColumn?_eq_some_iff.mp named
      refine ⟨fun own bears' => ?_, fun unnamed => absurd bears (unnamed column)⟩
      rw [← namedColumn?_eq_some_iff, named, Option.some.injEq] at bears'
      exact bears'
    · have unnamed := namedColumn?_eq_none_iff.mp gap
      exact ⟨fun own bears => absurd bears (unnamed own), fun _ => fills⟩
  · rintro ⟨named, fills⟩
    cases found : namedColumn? header field with
    | some own => exact .inl (congrArg some (named own (namedColumn?_eq_some_iff.mp found)).symm)
    | none => exact .inr ⟨rfl, fills (namedColumn?_eq_none_iff.mp found)⟩

/-- A field can be given a column unless it leaves a gap and none is free. -/
theorem exists_settled (preferred : Nat)
    (room : namedColumn? header field = none
      → (Finset.range header.length \ taken.toFinset).Nonempty) :
    ∃ column, Settled header taken preferred field column := by
  cases named : namedColumn? header field with
  | some own => exact ⟨own, .inl named⟩
  | none =>
    obtain ⟨column, fills⟩ := exists_fills (room named) preferred
    exact ⟨column, .inr ⟨named, freeColumn?_eq_some_iff.mpr fills⟩⟩

end Given

theorem range_sdiff_cons (count column : Nat) (taken : List Nat) :
    Finset.range count \ (column :: taken).toFinset
      = (Finset.range count \ taken.toFinset).erase column := by
  rw [List.toFinset_cons, Finset.sdiff_insert]

/-- The columns that are left once round and difficulty have theirs. -/
def leftOver (header : List String) (columns : Columns) : Finset Nat :=
  ((unclaimed header).erase columns.round).erase columns.difficulty

/-- How columns are given to fields. -/
structure Allotted (header : List String) (columns : Columns) : Prop where
  round : Given header (unclaimed header) 0 .round columns.round
  difficulty : Given header ((unclaimed header).erase columns.round) 1 .difficulty
    columns.difficulty
  miningTime : ∀ column, columns.miningTime = some column →
    Given header (leftOver header columns) 2 .miningTime column
  /-- Mining times may do without a column, but not if one is left for a gap. -/
  miningTime_isSome_iff : columns.miningTime.isSome = true ↔
    (∃ column, Bears header .miningTime column)
      ∨ (0 < gapCount header ∧ (leftOver header columns).Nonempty)
  positional_iff : columns.positional = true ↔ 0 < gapCount header
  within : ∀ column ∈ columns.used, column < header.length
  apart : columns.used.Nodup

theorem Resolved.allotted {header : List String} {columns : Columns}
    (resolved : Resolved header columns) : Allotted header columns where
  round := settled_iff.mp resolved.round
  difficulty := range_sdiff_cons _ _ _ ▸ settled_iff.mp resolved.difficulty
  miningTime := by
    intro column timed
    have settled := settled_iff.mp (resolved.miningTime_settled timed)
    rwa [range_sdiff_cons, range_sdiff_cons] at settled
  miningTime_isSome_iff := by
    rw [resolved.miningTime_eq, miningTimeColumn?, ← lacksColumn_iff]
    cases named : namedColumn? header .miningTime with
    | some own => simp [show ∃ column, _ from ⟨own, namedColumn?_eq_some_iff.mp named⟩]
    | none =>
      have gap : ¬ ∃ column, Bears header .miningTime column := by
        simpa using namedColumn?_eq_none_iff.mp named
      by_cases lacks : lacksColumn header = true
      · simp only [gap, lacks, false_or, true_and, if_true]
        rw [freeColumn?_isSome_iff, range_sdiff_cons, range_sdiff_cons]
        rfl
      · simp [gap, lacks]
  positional_iff := resolved.positional_eq ▸ lacksColumn_iff
  within := resolved.used_lt
  apart := resolved.used_nodup

/-! ## Enough columns -/

/-- Whether there are as many columns as fields claim and gaps need. -/
def Enough (header : List String) : Prop :=
  gapCount header = 0 ∨ (claimed header).card + gapCount header ≤ header.length

theorem enough_iff {header : List String} :
    Enough header ↔ gapCount header ≤ (unclaimed header).card := by
  have parted := card_claimed_add_card_unclaimed header
  unfold Enough
  omega

/-- Allotted columns in gaps were unclaimed, and two gaps have two of them. -/
theorem Allotted.enough {header : List String} {columns : Columns}
    (allotted : Allotted header columns) : Enough header := by
  rw [enough_iff]
  have round := allotted.round.fills
  have difficulty := allotted.difficulty.fills
  simp only [← namedColumn?_eq_none_iff] at round difficulty
  rw [gapCount]
  cases namedRound : namedColumn? header .round with
  | some own =>
    cases namedDifficulty : namedColumn? header .difficulty with
    | some own' => simp [namedRound, namedDifficulty]
    | none =>
      have filled := Finset.mem_of_mem_erase (difficulty namedDifficulty).mem
      simpa [namedRound, namedDifficulty] using ⟨_, filled⟩
  | none =>
    have filled := (round namedRound).mem
    cases namedDifficulty : namedColumn? header .difficulty with
    | some own => simpa [namedRound, namedDifficulty] using ⟨_, filled⟩
    | none =>
      have others := Finset.card_pos.mpr ⟨_, (difficulty namedDifficulty).mem⟩
      have together := Finset.card_erase_add_one filled
      have two : 2 ≤ (unclaimed header).card := by omega
      simpa [namedRound, namedDifficulty] using two

/-- With enough columns one is free for the difficulty once the rounds have theirs. -/
theorem nonempty_of_enough {header : List String} (enough : Enough header) (round : Nat)
    (settled : Settled header (namedColumns header) 0 .round round)
    (gap : namedColumn? header .difficulty = none) :
    ((unclaimed header).erase round).Nonempty := by
  rw [enough_iff, gapCount] at enough
  rcases settled with named | ⟨gap', -⟩
  · have taken := (namedColumn?_eq_some_iff.mp named).not_mem_unclaimed
    rw [Finset.erase_eq_of_notMem taken]
    simpa [named, gap] using enough
  · have several : 2 ≤ (unclaimed header).card := by simpa [gap', gap] using enough
    obtain ⟨other, free, different⟩ := Finset.exists_mem_ne several round
    exact ⟨other, Finset.mem_erase.mpr ⟨different, free⟩⟩

theorem exists_resolved {header : List String} (enough : Enough header) :
    ∃ columns, Resolved header columns := by
  have room : namedColumn? header .round = none → (unclaimed header).Nonempty := by
    intro gap
    rw [enough_iff, gapCount] at enough
    refine Finset.card_pos.mp (Nat.lt_of_lt_of_le ?_ enough)
    simp [gap]
  obtain ⟨round, roundSettled⟩ := exists_settled 0 room
  have room' : namedColumn? header .difficulty = none →
      (Finset.range header.length \ (round :: namedColumns header).toFinset).Nonempty := by
    rw [range_sdiff_cons]
    exact nonempty_of_enough enough round roundSettled
  obtain ⟨difficulty, difficultySettled⟩ := exists_settled 1 room'
  have apart : round ≠ difficulty :=
    roundSettled.ne difficultySettled (by decide) (List.Subset.refl _) (by simp)
  have roundWithin := roundSettled.lt_length
  have difficultyWithin := difficultySettled.lt_length
  exact ⟨⟨round, miningTimeColumn? header round difficulty, difficulty, lacksColumn header⟩,
    rfl, fun _ => by omega, roundSettled, difficultySettled, rfl⟩

/-- Columns are resolved if and only if there are enough of them, and then every field is
given its own column or one that fills its gap. -/
theorem resolveColumns_exact (artifact : Path) (header : List String) :
    match resolveColumns artifact header with
    | .ok columns => Enough header ∧ Allotted header columns
    | .error failure => ¬ Enough header ∧ failure.kind = .dataFormat := by
  cases outcome : resolveColumns artifact header with
  | ok columns =>
    have allotted := (resolveColumns_eq_ok_iff.mp outcome).allotted
    exact ⟨allotted.enough, allotted⟩
  | error failure =>
    refine ⟨fun enough => ?_, resolveColumns_error_kind outcome⟩
    obtain ⟨columns, resolved⟩ := exists_resolved enough
    rw [resolveColumns_eq_ok_iff.mpr resolved] at outcome
    cases outcome

/-- The difficulty is the first column, so the rounds are not looked for there. -/
example : resolveColumns ⟨"a.csv"⟩ ["difficulty", "height", "mining_time", "pool"]
    = .ok ⟨1, some 2, 0, true⟩ := by
  decide +kernel

end DeltaStudy.Artifact
