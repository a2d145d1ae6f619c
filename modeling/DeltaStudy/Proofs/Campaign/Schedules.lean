import DeltaStudy.Campaign.Sweep
import DeltaStudy.Proofs.Campaign.Outcomes

/-!
# Schedules of the worker pool

Whatever order a pool chooses, a move keeps one invariant: there is never more
under way than there is room for, what has started followed by what waits is the
plan, and the outcomes sent so far together with those still to come are the
outcomes of what has started. A pool that has finished has therefore sent one
outcome for each run and none twice.

The moves of a schedule are counted, so every schedule comes to an end.
-/

namespace DeltaStudy.Campaign

@[simp] theorem length_jobs (runs : List Run) : (jobs runs).length = runs.length := by
  simp [jobs]

@[simp] theorem map_run_jobs (runs : List Run) : (jobs runs).map Job.run = runs := by
  simp only [jobs, List.map_map]
  exact List.zipIdx_map_fst 0 runs

@[simp] theorem map_index_jobs (runs : List Run) :
    (jobs runs).map Job.index = List.range runs.length := by
  simp only [jobs, List.map_map, List.range_eq_range']
  exact List.zipIdx_map_snd 0 runs

/-- A job of a plan carries the run at its position. -/
theorem mem_jobs_iff {runs : List Run} {job : Job} :
    job ∈ jobs runs ↔ runs[job.index]? = some job.run := by
  simp only [jobs, List.mem_map]
  constructor
  · rintro ⟨⟨run, index⟩, member, rfl⟩
    exact List.mem_zipIdx_iff_getElem?.mp member
  · intro found
    exact ⟨(job.run, job.index), List.mem_zipIdx_iff_getElem?.mpr found, rfl⟩

namespace Pool

@[simp] theorem started_append (earlier later : List Move) :
    started (earlier ++ later) = started earlier ++ started later := by
  simp [started]

@[simp] theorem started_start (job : Job) : started [.start job] = [job] := rfl

@[simp] theorem started_finish (job : Job) : started [.finish job] = [] := rfl

/-- What holds of a pool that reached a state by moves, from the start of a plan. -/
structure Invariant (room : Nat) (answer : Job → Reply) (runs : List Run)
    (moves : List Move) (state : State) : Prop where
  /-- There is room for everything that is under way. -/
  bounded : state.running.length ≤ room
  /-- The plan is what has started, then what waits. -/
  ordered : started moves ++ state.waiting = jobs runs
  /-- What has started has either sent its outcome or is under way. -/
  conserved : (state.sent ++ state.running.map (Job.outcome answer)).Perm
    ((started moves).map (Job.outcome answer))
  /-- A job that waits is worth two moves, one that is under way is worth one. -/
  counted : moves.length + state.running.length + 2 * state.waiting.length = 2 * runs.length

variable {room : Nat} {answer : Job → Reply} {runs : List Run}

theorem Invariant.initial : Invariant room answer runs [] (.initial runs) where
  bounded := Nat.zero_le room
  ordered := rfl
  conserved := .refl _
  counted := by simp [State.initial]

/-- Every move keeps the invariant. -/
theorem Invariant.step {moves : List Move} {move : Move} {before after : State}
    (holds : Invariant room answer runs moves before) (next : Step room answer before move after) :
    Invariant room answer runs (moves ++ [move]) after := by
  obtain ⟨bounded, ordered, conserved, counted⟩ := holds
  cases next with
  | @start job waiting running sent free =>
    refine ⟨?_, ?_, ?_, ?_⟩
    · simpa using Nat.succ_le_of_lt free
    · simpa using ordered
    · simpa using conserved.append_right [job.outcome answer]
    · simp only [List.length_append, List.length_cons, List.length_nil] at counted ⊢
      omega
  | @finish job waiting sent earlier later =>
    refine ⟨?_, ?_, ?_, ?_⟩
    · simp only [List.length_append, List.length_cons] at bounded ⊢
      omega
    · simpa using ordered
    · -- The outcome moves from among those still to come to the end of those sent.
      have moved : (sent ++ [job.outcome answer]
          ++ (earlier ++ later).map (Job.outcome answer)).Perm
          (sent ++ (earlier ++ job :: later).map (Job.outcome answer)) := by
        rw [List.append_assoc, List.singleton_append, List.map_append, List.map_append,
          List.map_cons]
        exact List.perm_middle.symm.append_left sent
      simpa using moved.trans conserved
    · simp only [List.length_append, List.length_cons, List.length_nil] at counted ⊢
      omega

/-- The invariant holds in every state that a pool reaches. -/
theorem Invariant.of_steps {moves : List Move} {state : State}
    (steps : Steps room answer (.initial runs) moves state) :
    Invariant room answer runs moves state := by
  induction steps with
  | refl => exact .initial
  | step _ next inductionHypothesis => exact inductionHypothesis.step next

/-- A pool with room for a job is never stuck before it has finished. -/
theorem exists_step {state : State} (positive : 0 < room) (unfinished : ¬ state.finished) :
    ∃ move next, Step room answer state move next := by
  obtain ⟨waiting, running, sent⟩ := state
  cases running with
  | cons job later => exact ⟨.finish job, _, Step.finish [] later⟩
  | nil =>
    cases waiting with
    | nil => exact absurd ⟨rfl, rfl⟩ unfinished
    | cons job rest => exact ⟨.start job, _, Step.start positive⟩

/-- A pool of at least one worker has room for a job as long as there are jobs. -/
theorem capacity_pos {workers count : Nat} (staffed : 0 < workers) (some : 0 < count) :
    0 < capacity workers count := by
  simp only [capacity]
  omega

/-- A pool that has finished has started the whole plan, in its order. -/
theorem Invariant.started_eq {moves : List Move} {state : State}
    (holds : Invariant room answer runs moves state) (finished : state.finished) :
    started moves = jobs runs := by
  simpa [finished.1] using holds.ordered

/-- A pool that has finished has sent the outcomes of the plan, in some order. -/
theorem Invariant.sent_perm {moves : List Move} {state : State}
    (holds : Invariant room answer runs moves state) (finished : state.finished) :
    state.sent.Perm (inOrder answer runs) := by
  simpa [finished.2, holds.started_eq finished, inOrder] using holds.conserved

@[simp] theorem map_index_inOrder (answer : Job → Reply) (runs : List Run) :
    (inOrder answer runs).map Outcome.index = List.range runs.length := by
  rw [← map_index_jobs, inOrder, List.map_map]
  rfl

/-- An outcome of a plan reports on the run at its position. -/
theorem reports_of_mem_inOrder {outcome : Outcome} (member : outcome ∈ inOrder answer runs) :
    ∃ run, runs[outcome.index]? = some run ∧
      outcome.Reports outcome.index run (answer ⟨outcome.index, run⟩) := by
  simp only [inOrder, List.mem_map] at member
  obtain ⟨job, planned, rfl⟩ := member
  exact ⟨job.run, mem_jobs_iff.mp planned, conclude_reports job.index job.run (answer job)⟩

/-- Every schedule of a pool keeps to its bound, starts the plan in order, and
comes to an end with exactly one outcome for each run, which reports on the reply
for that run. -/
theorem schedule_complete {workers : Nat} (staffed : 0 < workers) {moves : List Move}
    {state : State}
    (steps : Steps (capacity workers runs.length) answer (.initial runs) moves state) :
    state.running.length ≤ min workers runs.length
    ∧ started moves ++ state.waiting = jobs runs
    ∧ moves.length ≤ 2 * runs.length
    ∧ (¬ state.finished → ∃ move next,
        Step (capacity workers runs.length) answer state move next)
    ∧ (state.finished →
        started moves = jobs runs
        ∧ state.sent.Perm ((jobs runs).map (Job.outcome answer))
        ∧ (state.sent.map Outcome.index).Perm (List.range runs.length)
        ∧ ∀ outcome ∈ state.sent, ∃ run, runs[outcome.index]? = some run ∧
            outcome.Reports outcome.index run (answer ⟨outcome.index, run⟩)) := by
  have holds := Invariant.of_steps steps
  refine ⟨holds.bounded, holds.ordered, ?_, ?_, ?_⟩
  · have counted := holds.counted
    omega
  · intro unfinished
    refine exists_step (capacity_pos staffed (Nat.pos_of_ne_zero fun none => ?_)) unfinished
    -- Without runs a pool has finished before its first move.
    have counted := holds.counted
    exact unfinished ⟨List.length_eq_zero_iff.mp (by omega), List.length_eq_zero_iff.mp (by omega)⟩
  · intro finished
    have sent := holds.sent_perm finished
    refine ⟨holds.started_eq finished, sent, ?_, ?_⟩
    · simpa using sent.map Outcome.index
    · intro outcome member
      exact reports_of_mem_inOrder (sent.mem_iff.mp member)

/-- Of two runs under way at a time the second may end first. -/
theorem schedule_complete_overtaking :
    let run : Run := ⟨"ethereum", 0.5, 7500, 15000, 10, 1000, ⟨"data/ethereum-0.5.csv"⟩⟩
    let answer : Job → Reply := fun job =>
      if job.index = 0 then .ended (some 0) "done" "" else .broke none
    ∃ state, Steps (capacity 2 2) answer (.initial [run, run])
        [.start ⟨0, run⟩, .start ⟨1, run⟩, .finish ⟨1, run⟩, .finish ⟨0, run⟩] state
      ∧ state.sent.map Outcome.success = [false, true]
      ∧ (state.sent.map Outcome.index).Perm [0, 1] := by
  intro run answer
  have steps : Steps (capacity 2 [run, run].length) answer (.initial [run, run])
      [.start ⟨0, run⟩, .start ⟨1, run⟩, .finish ⟨1, run⟩, .finish ⟨0, run⟩]
      ⟨[], [], [Job.outcome answer ⟨1, run⟩, Job.outcome answer ⟨0, run⟩]⟩ :=
    .step (.step (.step (.step .refl (.start (by decide))) (.start (by decide)))
      (.finish [_] [])) (.finish [] [])
  have complete := schedule_complete (by decide) steps
  exact ⟨_, steps, rfl, (complete.2.2.2.2 ⟨rfl, rfl⟩).2.2.1⟩

end Pool

end DeltaStudy.Campaign
