import DeltaStudy.Campaign.Tally
import DeltaStudy.Proofs.Campaign.Planning
import DeltaStudy.Proofs.Campaign.Schedules

/-!
# Tallies of a schedule

A tally sorts what it parts, and no two outcomes of a schedule have the same
position, so the order in which outcomes arrived leaves no trace: the tally is
that of the outcomes in the order of the plan. From there it is read off that a
tally accounts for every run of a request.
-/

namespace DeltaStudy.Campaign

/-- Outcomes in the order of their positions, no two at the same one. -/
def Ascending (outcomes : List Outcome) : Prop :=
  outcomes.Pairwise fun left right => left.index < right.index

/-- Outcomes at different positions are told apart by their position. -/
theorem Ascending.eq_of_index_eq {outcomes : List Outcome} (ascending : Ascending outcomes)
    {left right : Outcome} (leftMember : left ∈ outcomes) (rightMember : right ∈ outcomes)
    (same : left.index = right.index) : left = right := by
  obtain ⟨i, leftBound, rfl⟩ := List.mem_iff_getElem.mp leftMember
  obtain ⟨j, rightBound, rfl⟩ := List.mem_iff_getElem.mp rightMember
  have increasing := List.pairwise_iff_getElem.mp ascending
  rcases Nat.lt_trichotomy i j with before | equal | after
  · have strict := increasing i j leftBound rightBound before
    omega
  · subst equal
    rfl
  · have strict := increasing j i rightBound leftBound after
    omega

theorem ascending_inOrder (answer : Job → Reply) (runs : List Run) :
    Ascending (Pool.inOrder answer runs) := by
  have indices := Pool.map_index_inOrder answer runs
  have increasing : (List.range runs.length).Pairwise (· < ·) := List.pairwise_lt_range
  rw [← indices, List.pairwise_map] at increasing
  exact increasing

namespace Tally

/-- Sorting by position undoes any rearrangement of ascending outcomes. -/
theorem inPlanOrder_of_perm {arrived ordered : List Outcome} (ascending : Ascending ordered)
    (rearranged : arrived.Perm ordered) : inPlanOrder arrived = ordered := by
  have sorted : (inPlanOrder arrived).Pairwise
      fun left right => decide (left.index ≤ right.index) = true :=
    List.pairwise_mergeSort (by simp; omega) (by simp; omega) arrived
  have kept : (inPlanOrder arrived).Perm ordered :=
    (List.mergeSort_perm arrived _).trans rearranged
  refine List.Perm.eq_of_pairwise ?_ sorted (ascending.imp ?_) kept
  · intro left right leftMember rightMember below above
    rw [decide_eq_true_eq] at below above
    exact ascending.eq_of_index_eq (kept.mem_iff.mp leftMember) rightMember
      (Nat.le_antisymm below above)
  · intro left right less
    exact decide_eq_true (Nat.le_of_lt less)

/-- The tally of rearranged outcomes is that of the outcomes in their order, which
needs no sorting. -/
theorem ofOutcomes_of_perm {arrived ordered : List Outcome} (ascending : Ascending ordered)
    (rearranged : arrived.Perm ordered) :
    ofOutcomes arrived = ⟨ordered.filter Outcome.success,
      ordered.filter (fun outcome => !outcome.success), ordered.length⟩ := by
  simp only [ofOutcomes, rearranged.length_eq]
  congr 1
  · exact inPlanOrder_of_perm (ascending.filter _) (rearranged.filter _)
  · exact inPlanOrder_of_perm (ascending.filter _) (rearranged.filter _)

/-- A tally accounts for the outcomes of the values of a request. -/
structure Accounts (tally : Tally) (outcomes : List Outcome) (deltas : List Float) : Prop where
  /-- There is one outcome for each value. -/
  total_eq : tally.total = deltas.length
  /-- Every outcome counts for one of the parts. -/
  total_parts : tally.total = tally.successful.length + tally.failed.length
  /-- No outcome is in both parts. -/
  disjoint : ∀ outcome ∈ tally.successful, outcome ∉ tally.failed
  /-- Together the parts hold every outcome. -/
  parted : (tally.successful ++ tally.failed).Perm outcomes
  /-- Together the parts hold every position once. -/
  positions : ((tally.successful ++ tally.failed).map Outcome.index).Perm
    (List.range deltas.length)
  /-- The successful outcomes are in the order of the plan. -/
  successful_ascending : Ascending tally.successful
  /-- The failed outcomes are in the order of the plan. -/
  failed_ascending : Ascending tally.failed
  /-- The values of the two parts are those on either side of one condition, in
  the order of the request. -/
  complementary : ∃ succeeds : Float → Bool,
    tally.successfulDeltas = deltas.filter succeeds
      ∧ tally.failedDeltas = deltas.filter fun delta => !succeeds delta

/-- Outcomes that are kept for what their run is have the values of these runs. -/
theorem map_delta_filter_inOrder {answer : Job → Reply} {keeps : Outcome → Bool}
    (chosen : Run → Bool) (decided : ∀ job : Job, keeps (job.outcome answer) = chosen job.run)
    (runs : List Run) :
    ((Pool.inOrder answer runs).filter keeps).map Outcome.delta
      = (runs.filter chosen).map Run.delta := by
  have kept : keeps ∘ Job.outcome answer = chosen ∘ Job.run := funext decided
  calc ((Pool.inOrder answer runs).filter keeps).map Outcome.delta
      = ((jobs runs).filter (chosen ∘ Job.run)).map (Run.delta ∘ Job.run) := by
        rw [Pool.inOrder, List.filter_map, List.map_map, kept]
        rfl
    _ = (((jobs runs).map Job.run).filter chosen).map Run.delta := by
        rw [List.filter_map, List.map_map]
    _ = (runs.filter chosen).map Run.delta := by rw [map_run_jobs]

/-- The tally of any schedule of a plan accounts for the values that the plan was
settled from, if the launcher answers for a run whatever job it belongs to. -/
theorem accounts_of_perm {launcher : Run → Reply} {settle : Float → Run} {deltas : List Float}
    {outcomes : List Outcome} (settles : ∀ delta, (settle delta).delta = delta)
    (sent : outcomes.Perm (Pool.inOrder (fun job => launcher job.run) (deltas.map settle))) :
    (ofOutcomes outcomes).Accounts outcomes deltas := by
  let ordered := Pool.inOrder (fun job => launcher job.run) (deltas.map settle)
  have ascending : Ascending ordered := ascending_inOrder _ _
  have parted : (ordered.filter Outcome.success
      ++ ordered.filter (fun outcome => !outcome.success)).Perm ordered :=
    List.filter_append_perm _ _
  rw [ofOutcomes_of_perm ascending sent]
  refine ⟨?_, ?_, ?_, parted.trans sent.symm, ?_, ascending.filter _, ascending.filter _, ?_⟩
  · simp [ordered, Pool.inOrder]
  · simpa using parted.length_eq.symm
  · intro outcome successful failed
    simp_all
  · simpa [ordered] using parted.map Outcome.index
  · let succeeds : Run → Bool := fun run => ((launcher run).failure? run.delta).isNone
    refine ⟨succeeds ∘ settle, ?_, ?_⟩
    · rw [successfulDeltas, map_delta_filter_inOrder succeeds (fun _ => rfl),
        List.filter_map, List.map_map]
      exact (List.map_congr_left fun delta _ => settles delta).trans (List.map_id _)
    · rw [failedDeltas, map_delta_filter_inOrder (fun run => !succeeds run) (fun _ => rfl),
        List.filter_map, List.map_map]
      exact (List.map_congr_left fun delta _ => settles delta).trans (List.map_id _)

end Tally

end DeltaStudy.Campaign
