import DeltaStudy.Campaign.Plan
import DeltaStudy.Proofs.Failure

/-!
# How a plan is made

Planning settles the values of a request one after the other and remembers the
artifacts that are taken. Without the memory: a request is planned exactly if it
has values, nodes, rounds, a protocol and a generation time, every delay fits, and
no two artifacts are the same. Every refusal is the fault of the request.

Which values have the same artifact is not said here.
-/

namespace DeltaStudy.Campaign

/-- The run that settles a Δ/T value under a protocol in compared form. The delay
is only meaningful for a value whose delay fits. -/
def Request.settle (request : Request) (protocol : String) (generationTime : UInt64)
    (delta : Float) : Run where
  protocol := protocol
  delta := delta
  delay := (delayFor delta generationTime).toOption.getD 0
  generationTime := generationTime
  nodes := request.nodes
  endRound := request.endRound
  artifact := artifactPath request.outputDirectory protocol delta

variable {request : Request} {protocol : String} {generationTime : UInt64}

/-- Settling a value checks its delay, then its artifact, then goes on. -/
theorem planRuns_cons (taken : List Path) (delta : Float) (rest : List Float) :
    planRuns request protocol generationTime taken (delta :: rest) =
      match delayFor delta generationTime with
      | .error failure => .error failure
      | .ok _ =>
        let artifact := artifactPath request.outputDirectory protocol delta
        if taken.any artifact.same then .error (.repeatedDelta delta artifact)
        else (planRuns request protocol generationTime (artifact :: taken) rest).map
          (request.settle protocol generationTime delta :: ·) := by
  rw [planRuns]
  cases fits : delayFor delta generationTime with
  | error failure => rfl
  | ok delay =>
    simp only [bind, Except.bind]
    split
    · rfl
    · simp only [pure, Except.pure]
      cases planRuns request protocol generationTime
        (artifactPath request.outputDirectory protocol delta :: taken) rest with
      | error failure => rfl
      | ok runs => simp [Except.map, Request.settle, fits, Except.toOption]

/-- Values can be settled exactly if every delay fits and no artifact is the same as
one that is taken or one of an earlier value. -/
theorem planRuns_ok_iff (taken : List Path) (deltas : List Float) (runs : List Run) :
    planRuns request protocol generationTime taken deltas = .ok runs ↔
      (∀ delta ∈ deltas, ∃ delay, delayFor delta generationTime = .ok delay)
      ∧ (∀ delta ∈ deltas, ∀ path ∈ taken,
          (artifactPath request.outputDirectory protocol delta).same path = false)
      ∧ deltas.Pairwise (fun earlier later =>
          (artifactPath request.outputDirectory protocol later).same
            (artifactPath request.outputDirectory protocol earlier) = false)
      ∧ runs = deltas.map (request.settle protocol generationTime) := by
  induction deltas generalizing taken runs with
  | nil =>
    rw [planRuns]
    constructor
    · rintro ⟨rfl⟩
      simp
    · rintro ⟨-, -, -, rfl⟩
      rfl
  | cons delta rest inductionHypothesis =>
    rw [planRuns_cons]
    cases fits : delayFor delta generationTime with
    | error failure => simp [fits]
    | ok delay =>
      simp only
      split
      case isTrue repeated =>
        obtain ⟨path, member, same⟩ := List.any_eq_true.mp repeated
        constructor
        · simp
        · rintro ⟨-, apart, -, -⟩
          simp [apart delta List.mem_cons_self path member] at same
      case isFalse fresh =>
        have apart : ∀ path ∈ taken,
            (artifactPath request.outputDirectory protocol delta).same path = false := by
          simpa using fresh
        rw [map_eq_ok_iff]
        constructor
        · rintro ⟨later, planned, rfl⟩
          obtain ⟨fitting, clear, distinct, rfl⟩ := (inductionHypothesis _ _).mp planned
          simp only [List.forall_mem_cons] at clear ⊢
          refine ⟨⟨⟨delay, fits⟩, fitting⟩, ⟨apart, fun other member => (clear other member).2⟩,
            List.pairwise_cons.mpr ⟨fun other member => (clear other member).1, distinct⟩, rfl⟩
        · rintro ⟨fitting, clear, distinct, rfl⟩
          rw [List.forall_mem_cons] at fitting clear
          rw [List.pairwise_cons] at distinct
          refine ⟨rest.map (request.settle protocol generationTime), ?_, rfl⟩
          refine (inductionHypothesis _ _).mpr ⟨fitting.2, ?_, distinct.2, rfl⟩
          intro other member
          exact List.forall_mem_cons.mpr ⟨distinct.1 other member, clear.2 other member⟩

theorem delayFor_error_kind {delta : Float} {failure : Failure}
    (refused : delayFor delta generationTime = .error failure) :
    failure.kind = .configuration := by
  unfold delayFor at refused
  split at refused
  · simp only at refused
    split at refused
    · cases refused
      rfl
    · cases refused
  · cases refused
    rfl

theorem resolve_error_kind {table : ProtocolTable} {override : Option UInt64} {failure : Failure}
    (refused : table.resolve protocol override = .error failure) :
    failure.kind = .configuration := by
  unfold ProtocolTable.resolve at refused
  split at refused
  · split at refused
    · cases refused
      rfl
    · cases refused
  · split at refused
    · cases refused
    · cases refused
      rfl

theorem planRuns_error_kind {taken : List Path} {deltas : List Float} {failure : Failure}
    (refused : planRuns request protocol generationTime taken deltas = .error failure) :
    failure.kind = .configuration := by
  induction deltas generalizing taken with
  | nil =>
    rw [planRuns] at refused
    cases refused
  | cons delta rest inductionHypothesis =>
    rw [planRuns_cons] at refused
    cases fits : delayFor delta generationTime with
    | error cause =>
      simp only [fits] at refused
      cases refused
      exact delayFor_error_kind fits
    | ok delay =>
      simp only [fits] at refused
      split at refused
      · cases refused
        rfl
      · cases later : planRuns request protocol generationTime
            (artifactPath request.outputDirectory protocol delta :: taken) rest with
        | error cause =>
          simp only [later, Except.map] at refused
          cases refused
          exact inductionHypothesis later
        | ok runs =>
          simp only [later, Except.map] at refused
          cases refused

/-- A plan is refused for the first of its faults. -/
theorem plan_eq (request : Request) (table : ProtocolTable) :
    plan request table =
      if request.deltas = [] then .error .noDeltas
      else if request.nodes = 0 then .error .noNodes
      else if request.endRound = 0 then .error .noRounds
      else if normalizeProtocol request.protocol = "" then .error .noProtocol
      else match table.resolve (normalizeProtocol request.protocol) request.generationTime with
        | .error failure => .error failure
        | .ok generationTime => planRuns request (normalizeProtocol request.protocol)
            generationTime [] request.deltas := by
  unfold plan
  cases request.deltas with
  | nil => rfl
  | cons delta rest =>
    simp only [List.isEmpty_cons, Bool.false_eq_true, ↓reduceIte, reduceCtorEq]
    split
    · rfl
    · split
      · rfl
      · split
        · rfl
        · cases table.resolve (normalizeProtocol request.protocol) request.generationTime <;> rfl

/-- A request is planned exactly if it has all its parts and its values can be settled. -/
theorem plan_ok_iff {request : Request} {table : ProtocolTable} {runs : List Run} :
    plan request table = .ok runs ↔
      request.deltas ≠ [] ∧ request.nodes ≠ 0 ∧ request.endRound ≠ 0
      ∧ normalizeProtocol request.protocol ≠ ""
      ∧ ∃ generationTime,
          table.resolve (normalizeProtocol request.protocol) request.generationTime
            = .ok generationTime
          ∧ planRuns request (normalizeProtocol request.protocol) generationTime []
              request.deltas = .ok runs := by
  rw [plan_eq]
  split
  case isTrue missing => simp [missing]
  split
  case isTrue missing => simp [missing]
  split
  case isTrue missing => simp [missing]
  split
  case isTrue missing => simp [missing]
  cases table.resolve (normalizeProtocol request.protocol) request.generationTime with
  | error failure => simp
  | ok generationTime => simp_all

/-- A request that cannot be planned is at fault itself. -/
theorem plan_error_kind {request : Request} {table : ProtocolTable} {failure : Failure}
    (refused : plan request table = .error failure) : failure.kind = .configuration := by
  rw [plan_eq] at refused
  split at refused
  · cases refused; rfl
  split at refused
  · cases refused; rfl
  split at refused
  · cases refused; rfl
  split at refused
  · cases refused; rfl
  cases resolved : table.resolve (normalizeProtocol request.protocol) request.generationTime with
  | error cause =>
    simp only [resolved] at refused
    cases refused
    exact resolve_error_kind resolved
  | ok generationTime =>
    simp only [resolved] at refused
    exact planRuns_error_kind refused

/-- A plan settles the values of its request in their order. -/
theorem exists_settle_of_plan {request : Request} {table : ProtocolTable} {runs : List Run}
    (planned : plan request table = .ok runs) :
    ∃ generationTime, runs = request.deltas.map
      (request.settle (normalizeProtocol request.protocol) generationTime) := by
  obtain ⟨-, -, -, -, generationTime, -, settled⟩ := plan_ok_iff.mp planned
  exact ⟨generationTime, ((planRuns_ok_iff _ _ _).mp settled).2.2.2⟩

theorem planRuns_workers (request : Request) (workers : Nat) (protocol : String)
    (generationTime : UInt64) (taken : List Path) (deltas : List Float) :
    planRuns { request with workers } protocol generationTime taken deltas
      = planRuns request protocol generationTime taken deltas := by
  induction deltas generalizing taken with
  | nil => rw [planRuns, planRuns]
  | cons delta rest inductionHypothesis =>
    rw [planRuns_cons, planRuns_cons]
    simp only [inductionHypothesis]
    rfl

/-- A plan does not depend on the number of workers. -/
theorem plan_workers (request : Request) (workers : Nat) (table : ProtocolTable) :
    plan { request with workers } table = plan request table := by
  rw [plan_eq, plan_eq]
  simp only [planRuns_workers]

end DeltaStudy.Campaign
