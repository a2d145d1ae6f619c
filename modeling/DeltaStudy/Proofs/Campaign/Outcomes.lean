import DeltaStudy.Campaign.Outcome

/-!
# What an outcome tells of a reply

An outcome reports on one run: it carries the position and the Δ/T value of that
run, and it is a success exactly when the simulator ended with status zero. Every
other reply, a refusal and a breakdown of the launcher included, becomes a
failure text of this outcome alone.
-/

namespace DeltaStudy.Campaign

/-- The simulator ended with status zero. -/
def Reply.Successful (reply : Reply) : Prop :=
  ∃ stdout stderr, reply = .ended (some 0) stdout stderr

/-- Only a successful reply carries no cause of failure. -/
theorem Reply.failure?_eq_none_iff (delta : Float) (reply : Reply) :
    reply.failure? delta = none ↔ reply.Successful := by
  constructor
  · intro harmless
    cases reply with
    | ended status stdout stderr =>
      by_cases zero : status = some 0
      · exact ⟨stdout, stderr, by rw [zero]⟩
      · simp [failure?] at harmless
    | refused failure => simp [failure?] at harmless
    | broke complaint => simp [failure?] at harmless
  · rintro ⟨stdout, stderr, rfl⟩
    rfl

/-- An outcome reports on the run at a position, given the launcher's reply. -/
structure Outcome.Reports (outcome : Outcome) (index : Nat) (run : Run) (reply : Reply) :
    Prop where
  /-- The outcome has the position of the run. -/
  index_eq : outcome.index = index
  /-- The outcome has the Δ/T value of the run. -/
  delta_eq : outcome.delta = run.delta
  /-- The run succeeded without a failure text exactly if the reply is successful. -/
  success_iff : (outcome.success = true ∧ outcome.failure = none) ↔ reply.Successful
  /-- Any other reply makes the run a failed one, with the message of its cause. -/
  failed : ¬ reply.Successful → outcome.success = false ∧
    ∃ cause, reply.failure? run.delta = some cause ∧ outcome.failure = some cause.message
  /-- What the simulator wrote is kept, whether or not the run succeeded. -/
  output_eq : (outcome.stdout, outcome.stderr) = reply.output

/-- What is concluded from a reply reports on the run. -/
theorem conclude_reports (index : Nat) (run : Run) (reply : Reply) :
    (conclude index run reply).Reports index run reply where
  index_eq := rfl
  delta_eq := rfl
  success_iff := by
    rw [← Reply.failure?_eq_none_iff run.delta]
    simp [conclude]
  failed := by
    intro unsuccessful
    rw [← Reply.failure?_eq_none_iff run.delta] at unsuccessful
    obtain ⟨cause, carried⟩ := Option.ne_none_iff_exists'.mp unsuccessful
    simp [conclude, carried]
  output_eq := rfl

end DeltaStudy.Campaign
