import DeltaStudy.Campaign.Outcome

/-!
# Tallies

The tally of a campaign tells the runs that succeeded from those that failed.
Both parts are in the order of the plan, so a tally does not show in which order
the runs came to an end.
-/

namespace DeltaStudy.Campaign

/-- The outcomes of a campaign, parted by success. -/
structure Tally where
  /-- The successful outcomes in the order of the plan. -/
  successful : List Outcome
  /-- The other outcomes in the order of the plan. -/
  failed : List Outcome
  /-- The number of all outcomes. -/
  total : Nat
deriving DecidableEq

namespace Tally

/-- Outcomes in the order of the plan; outcomes of one position keep their order. -/
def inPlanOrder (outcomes : List Outcome) : List Outcome :=
  outcomes.mergeSort fun left right => left.index ≤ right.index

/-- The tally of outcomes in any order. -/
def ofOutcomes (outcomes : List Outcome) : Tally :=
  { successful := inPlanOrder (outcomes.filter Outcome.success)
    failed := inPlanOrder (outcomes.filter fun outcome => !outcome.success)
    total := outcomes.length }

/-- Whether no run failed. -/
def allSucceeded (tally : Tally) : Bool :=
  tally.failed.isEmpty

/-- The Δ/T values of the successful runs. -/
def successfulDeltas (tally : Tally) : List Float :=
  tally.successful.map Outcome.delta

/-- The Δ/T values of the failed runs. -/
def failedDeltas (tally : Tally) : List Float :=
  tally.failed.map Outcome.delta

end Tally

end DeltaStudy.Campaign
