import Mathlib.Data.Finset.Card
import DeltaStudy.Artifact.Measurements

/-!
# One measurement for each round

Normalizing keeps the first measurement of every round and puts what it keeps in the
order of the rounds. What it keeps is said without the memory of the rounds before:
a measurement that no other one of its round precedes.

Whether a measurement is first can be asked of parts of a list and of any list with the
same order within the rounds. So normalizing may be done in parts, and again.
-/

namespace DeltaStudy.Artifact

/-- A measurement in a list that no other one of its round precedes. -/
def First (measurements : List Measurement) (measurement : Measurement) : Prop :=
  ∃ before after, measurements = before ++ measurement :: after
    ∧ ∀ earlier ∈ before, earlier.round ≠ measurement.round

theorem First.mem {measurements : List Measurement} {measurement : Measurement}
    (isFirst : First measurements measurement) : measurement ∈ measurements := by
  obtain ⟨before, after, rfl, -⟩ := isFirst
  exact List.mem_append_right _ List.mem_cons_self

theorem first_nil {measurement : Measurement} : ¬ First [] measurement := by
  rintro ⟨before, after, spelled, -⟩
  simp at spelled

/-- Behind another measurement only those of other rounds are first. -/
theorem first_cons_iff {head measurement : Measurement} {rest : List Measurement} :
    First (head :: rest) measurement ↔
      measurement = head ∨ (head.round ≠ measurement.round ∧ First rest measurement) := by
  constructor
  · rintro ⟨before, after, spelled, earliest⟩
    cases before with
    | nil =>
      rw [List.nil_append, List.cons.injEq] at spelled
      exact .inl spelled.1.symm
    | cons first between =>
      rw [List.cons_append, List.cons.injEq] at spelled
      obtain ⟨rfl, spelled⟩ := spelled
      rw [List.forall_mem_cons] at earliest
      exact .inr ⟨earliest.1, between, after, spelled, earliest.2⟩
  · rintro (rfl | ⟨different, before, after, rfl, earliest⟩)
    · exact ⟨[], rest, rfl, by simp⟩
    · exact ⟨head :: before, after, rfl, List.forall_mem_cons.mpr ⟨different, earliest⟩⟩

/-- Every measurement has a first one of its round. -/
theorem exists_first_of_mem {measurements : List Measurement} {measurement : Measurement}
    (member : measurement ∈ measurements) :
    ∃ first, First measurements first ∧ first.round = measurement.round := by
  induction measurements with
  | nil => cases member
  | cons head rest inductionHypothesis =>
    by_cases same : head.round = measurement.round
    · exact ⟨head, first_cons_iff.mpr (.inl rfl), same⟩
    · have later : measurement ∈ rest := by
        rcases List.mem_cons.mp member with rfl | later
        · exact absurd rfl same
        · exact later
      obtain ⟨first, isFirst, sameRound⟩ := inductionHypothesis later
      exact ⟨first, first_cons_iff.mpr (.inr ⟨sameRound ▸ same, isFirst⟩), sameRound⟩

/-! ## What is kept -/

/-- Kept is what is first and of a round that has not been seen. -/
theorem mem_firstOfRounds_iff {seen : List UInt64} {measurements : List Measurement}
    {measurement : Measurement} :
    measurement ∈ firstOfRounds seen measurements ↔
      measurement.round ∉ seen ∧ First measurements measurement := by
  induction measurements generalizing seen with
  | nil => simp [firstOfRounds, first_nil]
  | cons head rest inductionHypothesis =>
    rw [firstOfRounds, first_cons_iff]
    split
    case isTrue known =>
      have known : head.round ∈ seen := List.contains_iff_mem.mp known
      rw [inductionHypothesis]
      refine and_congr_right fun fresh => ?_
      have different : head.round ≠ measurement.round := fun same => fresh (same ▸ known)
      have notHead : measurement ≠ head := fun same => different (same ▸ rfl)
      simp [notHead, different]
    case isFalse unknown =>
      have unknown : head.round ∉ seen := mt List.contains_iff_mem.mpr unknown
      rw [List.mem_cons, inductionHypothesis, List.mem_cons, not_or]
      constructor
      · rintro (rfl | ⟨⟨different, fresh⟩, isFirst⟩)
        · exact ⟨unknown, .inl rfl⟩
        · exact ⟨fresh, .inr ⟨Ne.symm different, isFirst⟩⟩
      · rintro ⟨fresh, rfl | ⟨different, isFirst⟩⟩
        · exact .inl rfl
        · exact .inr ⟨⟨Ne.symm different, fresh⟩, isFirst⟩

/-- No two measurements of one round are kept. -/
theorem firstOfRounds_apart (seen : List UInt64) (measurements : List Measurement) :
    (firstOfRounds seen measurements).Pairwise fun left right => left.round ≠ right.round := by
  induction measurements generalizing seen with
  | nil => exact .nil
  | cons head rest inductionHypothesis =>
    rw [firstOfRounds]
    split
    · exact inductionHypothesis seen
    · refine List.pairwise_cons.mpr ⟨fun other kept => ?_, inductionHypothesis _⟩
      have fresh := (mem_firstOfRounds_iff.mp kept).1
      exact fun same => fresh (same ▸ List.mem_cons_self)

theorem firstOfRounds_sublist (seen : List UInt64) (measurements : List Measurement) :
    (firstOfRounds seen measurements).Sublist measurements := by
  induction measurements generalizing seen with
  | nil => exact .slnil
  | cons head rest inductionHypothesis =>
    rw [firstOfRounds]
    split
    · exact (inductionHypothesis seen).cons head
    · exact (inductionHypothesis _).cons_cons head

/-- As many measurements are kept as there are rounds. -/
theorem length_firstOfRounds (measurements : List Measurement) :
    (firstOfRounds [] measurements).length
      = (measurements.map Measurement.round).toFinset.card := by
  have distinct : ((firstOfRounds [] measurements).map Measurement.round).Nodup :=
    List.pairwise_map.mpr (firstOfRounds_apart [] measurements)
  have rounds : ((firstOfRounds [] measurements).map Measurement.round).toFinset
      = (measurements.map Measurement.round).toFinset := by
    ext round
    simp only [List.mem_toFinset, List.mem_map]
    constructor
    · rintro ⟨kept, member, rfl⟩
      exact ⟨kept, (mem_firstOfRounds_iff.mp member).2.mem, rfl⟩
    · rintro ⟨measurement, member, rfl⟩
      obtain ⟨first, isFirst, same⟩ := exists_first_of_mem member
      exact ⟨first, mem_firstOfRounds_iff.mpr ⟨by simp, isFirst⟩, same⟩
  rw [← rounds, List.toFinset_card_of_nodup distinct, List.length_map]

/-! ## The order of the rounds -/

theorem mem_normalize_iff {measurements : List Measurement} {measurement : Measurement} :
    measurement ∈ normalize measurements ↔ First measurements measurement := by
  rw [normalize, List.mem_mergeSort, mem_firstOfRounds_iff]
  simp

/-- Something is kept of every round. -/
theorem exists_mem_normalize {measurements : List Measurement} {measurement : Measurement}
    (member : measurement ∈ measurements) :
    ∃ kept ∈ normalize measurements, kept.round = measurement.round := by
  obtain ⟨first, isFirst, same⟩ := exists_first_of_mem member
  exact ⟨first, mem_normalize_iff.mpr isFirst, same⟩

/-- Normalized measurements are in the strict order of their rounds. -/
theorem normalize_ascending (measurements : List Measurement) :
    (normalize measurements).Pairwise fun earlier later => earlier.round < later.round := by
  have sorted : (normalize measurements).Pairwise
      fun left right => decide (left.round ≤ right.round) = true := by
    refine List.pairwise_mergeSort ?_ ?_ _
    · intro left middle right below above
      rw [decide_eq_true_eq] at below above ⊢
      exact UInt64.le_trans below above
    · intro left right
      simpa using UInt64.le_total left.round right.round
  have apart : (normalize measurements).Pairwise fun left right => left.round ≠ right.round :=
    (firstOfRounds_apart [] measurements).perm (List.mergeSort_perm _ _).symm Ne.symm
  refine sorted.imp₂ (fun left right below differ => ?_) apart
  rw [decide_eq_true_eq] at below
  exact UInt64.lt_of_le_of_ne below differ

/-- What normalizing leaves out is counted as duplicates. -/
theorem length_normalize_add_duplicates (measurements : List Measurement) :
    (normalize measurements).length + duplicates measurements = measurements.length := by
  rw [normalize, List.length_mergeSort, duplicates]
  exact Nat.add_sub_cancel' (firstOfRounds_sublist [] measurements).length_le

/-- Something is left of measurements unless there were none. -/
theorem normalize_eq_nil_iff {measurements : List Measurement} :
    normalize measurements = [] ↔ measurements = [] := by
  constructor
  · intro nothing
    refine List.eq_nil_iff_forall_not_mem.mpr fun measurement member => ?_
    obtain ⟨kept, isKept, -⟩ := exists_mem_normalize member
    rw [nothing] at isKept
    cases isKept
  · rintro rfl
    rw [normalize, firstOfRounds, List.mergeSort_nil]

/-- What is first decides what is left after normalizing. -/
theorem normalize_congr {left right : List Measurement}
    (same : ∀ measurement, First left measurement ↔ First right measurement) :
    normalize left = normalize right := by
  have nodup (measurements : List Measurement) : (normalize measurements).Nodup := by
    refine (normalize_ascending measurements).imp ?_
    rintro measurement _ below rfl
    exact UInt64.lt_irrefl _ below
  -- Both sides are in strict order, so the same members are the same list.
  have perm : (normalize left).Perm (normalize right) := by
    refine (List.perm_ext_iff_of_nodup (nodup left) (nodup right)).mpr fun measurement => ?_
    rw [mem_normalize_iff, mem_normalize_iff, same]
  refine perm.eq_of_pairwise ?_ (normalize_ascending left) (normalize_ascending right)
  intro earlier later _ _ below above
  exact absurd above (UInt64.lt_asymm below)

/-! ## Merging in parts -/

/-- A measurement is first if the search for its round ends at it. -/
theorem first_iff_find? {measurements : List Measurement} {measurement : Measurement} :
    First measurements measurement
      ↔ measurements.find? (·.round = measurement.round) = some measurement := by
  rw [List.find?_eq_some_iff_append]
  simp [First]

/-- Behind other measurements only those of other rounds are first. -/
theorem first_append_iff {front back : List Measurement} {measurement : Measurement} :
    First (front ++ back) measurement ↔
      First front measurement
        ∨ ((∀ earlier ∈ front, earlier.round ≠ measurement.round) ∧ First back measurement) := by
  simp only [first_iff_find?, List.find?_append, Option.or_eq_some_iff, List.find?_eq_none,
    decide_eq_true_eq, ne_eq]

/-- Measurements of different rounds are all first. -/
theorem first_iff_mem {measurements : List Measurement}
    (apart : measurements.Pairwise fun left right => left.round ≠ right.round)
    {measurement : Measurement} :
    First measurements measurement ↔ measurement ∈ measurements := by
  refine ⟨First.mem, fun member => ?_⟩
  obtain ⟨before, after, rfl⟩ := List.append_of_mem member
  exact ⟨before, after, rfl, fun earlier inFront =>
    (List.pairwise_append.mp apart).2.2 earlier inFront measurement List.mem_cons_self⟩

/-- Normalizing keeps what is first, and it is first again. -/
theorem first_normalize_iff {measurements : List Measurement} {measurement : Measurement} :
    First (normalize measurements) measurement ↔ First measurements measurement := by
  rw [first_iff_mem ((normalize_ascending measurements).imp UInt64.ne_of_lt), mem_normalize_iff]

/-- A round occurs among normalized measurements if it occurred before. -/
theorem forall_normalize_round_ne_iff {measurements : List Measurement} {round : UInt64} :
    (∀ kept ∈ normalize measurements, kept.round ≠ round)
      ↔ ∀ measurement ∈ measurements, measurement.round ≠ round := by
  constructor
  · intro fresh measurement member
    obtain ⟨kept, isKept, same⟩ := exists_mem_normalize member
    exact same ▸ fresh kept isKept
  · intro fresh kept isKept
    exact fresh kept (mem_normalize_iff.mp isKept).mem

theorem normalize_normalize (measurements : List Measurement) :
    normalize (normalize measurements) = normalize measurements :=
  normalize_congr fun _ => first_normalize_iff

/-- Measurements that come later may be added before normalizing or after it. -/
theorem normalize_normalize_append (front back : List Measurement) :
    normalize (normalize front ++ back) = normalize (front ++ back) := by
  refine normalize_congr fun measurement => ?_
  rw [first_append_iff, first_append_iff, first_normalize_iff, forall_normalize_round_ne_iff]

/-- What is dropped in parts is dropped. -/
theorem duplicates_append (front back : List Measurement) :
    duplicates (front ++ back) = duplicates front + duplicates (normalize front ++ back) := by
  have whole := length_normalize_add_duplicates (front ++ back)
  have part := length_normalize_add_duplicates front
  have rest := length_normalize_add_duplicates (normalize front ++ back)
  rw [normalize_normalize_append] at rest
  rw [List.length_append] at whole rest
  omega

/-! ## Other orders -/

/-- Two lists with the same measurements of each round in the same order. What is between
them does not matter. -/
def SameByRound (left right : List Measurement) : Prop :=
  ∀ round, left.filter (·.round = round) = right.filter (·.round = round)

theorem SameByRound.perm {left right : List Measurement} (same : SameByRound left right) :
    left.Perm right := by
  refine List.perm_iff_count.mpr fun measurement => ?_
  have ofRound (measurements : List Measurement) :
      measurements.count measurement
        = (measurements.filter (·.round = measurement.round)).count measurement :=
    (List.count_filter (by simp)).symm
  rw [ofRound left, ofRound right, same]

theorem SameByRound.normalize_eq {left right : List Measurement}
    (same : SameByRound left right) : normalize left = normalize right := by
  refine normalize_congr fun measurement => ?_
  rw [first_iff_find?, first_iff_find?, ← List.head?_filter, ← List.head?_filter, same]

theorem SameByRound.duplicates_eq {left right : List Measurement}
    (same : SameByRound left right) : duplicates left = duplicates right := by
  have leftCount := length_normalize_add_duplicates left
  have rightCount := length_normalize_add_duplicates right
  rw [same.normalize_eq, same.perm.length_eq] at leftCount
  omega

/-! ## The first one wins -/

/-- What can be relied on in a merge in which the first measurement of a round wins, and in
its count of those that were dropped. -/
structure FirstWins (merge : List Measurement → List Measurement)
    (dropped : List Measurement → Nat) : Prop where
  ascending : ∀ measurements,
    (merge measurements).Pairwise fun earlier later => earlier.round < later.round
  /-- Kept is what is first of its round, and nothing else. -/
  mem_iff : ∀ measurements measurement,
    measurement ∈ merge measurements ↔ First measurements measurement
  /-- There is one for every round. -/
  covers : ∀ measurements, ∀ measurement ∈ measurements,
    ∃ kept ∈ merge measurements, kept.round = measurement.round
  dropped_eq : ∀ measurements,
    dropped measurements + (merge measurements).length = measurements.length
  merge_merge : ∀ measurements, merge (merge measurements) = merge measurements
  dropped_merge : ∀ measurements, dropped (merge measurements) = 0
  merge_append : ∀ front back, merge (front ++ back) = merge (merge front ++ back)
  dropped_append : ∀ front back,
    dropped (front ++ back) = dropped front + dropped (merge front ++ back)
  merge_reordered : ∀ measurements reordered, SameByRound measurements reordered →
    merge reordered = merge measurements ∧ dropped reordered = dropped measurements

/-- Normalizing is a merge in which the first measurement of a round wins. -/
theorem normalize_firstWins : FirstWins normalize duplicates where
  ascending := normalize_ascending
  mem_iff _ _ := mem_normalize_iff
  covers _ _ := exists_mem_normalize
  dropped_eq measurements := by
    rw [Nat.add_comm, length_normalize_add_duplicates]
  merge_merge := normalize_normalize
  dropped_merge := by
    intro measurements
    have counted := length_normalize_add_duplicates (normalize measurements)
    rw [normalize_normalize] at counted
    omega
  merge_append front back := (normalize_normalize_append front back).symm
  dropped_append := duplicates_append
  merge_reordered _ _ same := ⟨same.normalize_eq.symm, same.duplicates_eq.symm⟩

end DeltaStudy.Artifact
