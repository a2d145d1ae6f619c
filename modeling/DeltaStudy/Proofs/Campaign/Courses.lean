import DeltaStudy.Campaign.Course
import DeltaStudy.Proofs.Campaign.Tallies

/-!
# Courses of a sweep

A sweep has three kinds of course: the request is refused and nothing happens,
the directory is refused and nothing else happens, or the directory is made, every
run is launched in the order of the plan, and the outcomes are those of some
schedule of the pool. Everything else here is read off from these three.

A machine that works through the runs one after the other follows one of these
courses.
-/

namespace DeltaStudy.Campaign

/-- Some schedule of a pool works through runs and sends these outcomes. -/
def Pool.Completes (room : Nat) (answer : Job → Reply) (runs : List Run)
    (outcomes : List Outcome) : Prop :=
  ∃ moves final, Steps room answer (.initial runs) moves final ∧ final.finished
    ∧ outcomes = final.sent

/-- What a schedule sends are the outcomes of the plan in some order. -/
theorem Pool.Completes.perm {room : Nat} {answer : Job → Reply} {runs : List Run}
    {outcomes : List Outcome} (completes : Completes room answer runs outcomes) :
    outcomes.Perm (inOrder answer runs) := by
  obtain ⟨moves, final, steps, finished, rfl⟩ := completes
  exact (Invariant.of_steps steps).sent_perm finished

/-- The schedule in order is complete for any number of workers but none. -/
theorem Pool.completes_inOrder {workers : Nat} (staffed : 0 < workers) (answer : Job → Reply)
    (runs : List Run) :
    Completes (capacity workers runs.length) answer runs (inOrder answer runs) := by
  cases runs with
  | nil => exact ⟨[], _, .refl, ⟨rfl, rfl⟩, rfl⟩
  | cons run rest =>
    exact ⟨_, _, inOrder_reachable answer (capacity_pos staffed (by simp)) _, ⟨rfl, rfl⟩, rfl⟩

namespace Course

/-- A pool launches every run once, in the order of the plan. -/
theorem dispatch_iff {workers : Nat} {answer : Job → Reply} {runs : List Run} {acts : List Act}
    {outcomes : List Outcome} :
    dispatch workers answer runs acts outcomes ↔ acts = runs.map .launch
      ∧ Pool.Completes (Pool.capacity workers runs.length) answer runs outcomes := by
  -- What a finished pool has started is the whole plan.
  have launched {moves : List Pool.Move} {final : Pool.State}
      (steps : Pool.Steps (Pool.capacity workers runs.length) answer (.initial runs) moves final)
      (finished : final.finished) :
      (Pool.started moves).map (fun job => Act.launch job.run) = runs.map .launch := by
    rw [(Pool.Invariant.of_steps steps).started_eq finished]
    calc (jobs runs).map (fun job => Act.launch job.run)
        = ((jobs runs).map Job.run).map .launch := by
          rw [List.map_map]
          rfl
      _ = runs.map .launch := by rw [map_run_jobs]
  constructor
  · rintro ⟨moves, final, steps, finished, rfl, rfl⟩
    exact ⟨launched steps finished, moves, final, steps, finished, rfl⟩
  · rintro ⟨rfl, moves, final, steps, finished, rfl⟩
    exact ⟨moves, final, steps, finished, (launched steps finished).symm, rfl⟩

end Course

theorem prepare_eq (request : Request) (table : ProtocolTable) :
    prepare request table = match plan request table with
      | .error failure => .error failure
      | .ok runs => if request.workers = 0 then .error .noWorkers else .ok runs := by
  unfold prepare checkWorkers
  cases plan request table with
  | error failure => rfl
  | ok runs =>
    by_cases none : request.workers = 0
    · simp only [none, bind, Except.bind, ↓reduceIte]
    · simp only [none, bind, Except.bind, pure, Except.pure, ↓reduceIte]

/-- A request is prepared exactly if it is planned and has workers. -/
theorem prepare_ok_iff {request : Request} {table : ProtocolTable} {runs : List Run} :
    prepare request table = .ok runs ↔ plan request table = .ok runs ∧ 0 < request.workers := by
  rw [prepare_eq]
  cases plan request table with
  | error failure => simp
  | ok planned =>
    by_cases none : request.workers = 0
    · simp [none]
    · simp [none, Nat.pos_of_ne_zero none]

/-- A request that cannot be prepared is at fault itself. -/
theorem prepare_error_kind {request : Request} {table : ProtocolTable} {failure : Failure}
    (refused : prepare request table = .error failure) : failure.kind = .configuration := by
  rw [prepare_eq] at refused
  cases planned : plan request table with
  | error cause =>
    simp only [planned] at refused
    cases refused
    exact plan_error_kind planned
  | ok runs =>
    simp only [planned] at refused
    split at refused
    · cases refused
      rfl
    · cases refused

namespace Course

variable {store : Path → Except Failure Unit} {answer : Job → Reply} {request : Request}
  {table : ProtocolTable} {acts : List Act} {result : Except Failure Sweep}

/-- After the store has been asked, its answer decides how it goes on. -/
theorem makeDirectory_bind_iff {α : Type} {directory : Path}
    {next : Except Failure Unit → Course α} {value : α} :
    (makeDirectory store directory >>= next) acts value ↔
      ∃ later, next (store directory) later value ∧ acts = .makeDirectory directory :: later := by
  constructor
  · rintro ⟨_, _, later, ⟨rfl, rfl⟩, continued, rfl⟩
    exact ⟨later, continued, rfl⟩
  · rintro ⟨later, continued, rfl⟩
    exact ⟨_, _, later, ⟨rfl, rfl⟩, continued, rfl⟩

/-- Runs that a pool works through are all that happens before a result is made of
their outcomes. -/
theorem dispatch_bind_iff {α : Type} {workers : Nat} {runs : List Run}
    {conclusion : List Outcome → α} {value : α} :
    ((pure () : Course Unit) >>= fun _ => dispatch workers answer runs >>= fun outcomes =>
        pure (conclusion outcomes)) acts value ↔
      ∃ outcomes, Pool.Completes (Pool.capacity workers runs.length) answer runs outcomes
        ∧ acts = runs.map .launch ∧ value = conclusion outcomes := by
  constructor
  · rintro ⟨_, _, _, ⟨rfl, rfl⟩, ⟨earlier, outcomes, _, dispatched, ⟨rfl, rfl⟩, rfl⟩, rfl⟩
    obtain ⟨rfl, completes⟩ := dispatch_iff.mp dispatched
    exact ⟨outcomes, completes, by simp, rfl⟩
  · rintro ⟨outcomes, completes, rfl, rfl⟩
    exact ⟨[], (), runs.map .launch, ⟨rfl, rfl⟩, ⟨runs.map .launch, outcomes, [],
      dispatch_iff.mpr ⟨rfl, completes⟩, ⟨rfl, rfl⟩, by simp⟩, rfl⟩

/-- The courses of a sweep: refused before anything happens, refused the directory,
or every run launched in order and its outcome sent. -/
theorem sweep_iff :
    sweep store answer request table acts result ↔
      (∃ failure, prepare request table = .error failure ∧ acts = [] ∧ result = .error failure)
      ∨ (∃ runs failure, prepare request table = .ok runs
          ∧ store request.outputDirectory = .error failure
          ∧ acts = [.makeDirectory request.outputDirectory] ∧ result = .error failure)
      ∨ (∃ runs outcomes, prepare request table = .ok runs
          ∧ store request.outputDirectory = .ok ()
          ∧ Pool.Completes (Pool.capacity request.workers runs.length) answer runs outcomes
          ∧ acts = .makeDirectory request.outputDirectory :: runs.map .launch
          ∧ result = .ok (.ofOutcomes runs outcomes)) := by
  unfold sweep sweepThrough
  cases prepared : prepare request table with
  | error failure => simp [pure]
  | ok runs =>
    simp only [makeDirectory_bind_iff]
    cases made : store request.outputDirectory with
    | error failure =>
      constructor
      · rintro ⟨_, ⟨rfl, rfl⟩, rfl⟩
        exact .inr (.inl ⟨runs, failure, rfl, rfl, rfl, rfl⟩)
      · rintro (⟨_, impossible, -⟩ | ⟨_, _, -, ⟨rfl⟩, rfl, rfl⟩ | ⟨_, _, -, impossible, -⟩)
        · cases impossible
        · exact ⟨[], ⟨rfl, rfl⟩, rfl⟩
        · cases impossible
    | ok nothing =>
      simp only [dispatch_bind_iff]
      constructor
      · rintro ⟨_, ⟨outcomes, completes, rfl, rfl⟩, rfl⟩
        exact .inr (.inr ⟨runs, outcomes, rfl, trivial, completes, rfl, rfl⟩)
      · rintro (⟨_, impossible, -⟩ | ⟨_, _, -, impossible, -⟩
          | ⟨_, outcomes, ⟨rfl⟩, -, completes, rfl, rfl⟩)
        · cases impossible
        · cases impossible
        · exact ⟨_, ⟨outcomes, completes, rfl, rfl⟩, rfl⟩

/-- Every request has a course, whatever the store and the launcher answer. -/
theorem exists_sweep (store : Path → Except Failure Unit) (answer : Job → Reply)
    (request : Request) (table : ProtocolTable) :
    ∃ acts result, sweep store answer request table acts result := by
  cases prepared : prepare request table with
  | error failure => exact ⟨_, _, sweep_iff.mpr (.inl ⟨failure, prepared, rfl, rfl⟩)⟩
  | ok runs =>
    cases made : store request.outputDirectory with
    | error failure =>
      exact ⟨_, _, sweep_iff.mpr (.inr (.inl ⟨runs, failure, prepared, made, rfl, rfl⟩))⟩
    | ok nothing =>
      have completes := Pool.completes_inOrder (prepare_ok_iff.mp prepared).2 answer runs
      exact ⟨_, _, sweep_iff.mpr (.inr (.inr ⟨runs, _, prepared, made, completes, rfl, rfl⟩))⟩

end Course

/-- A machine carries out a job by concluding from some reply of its launcher. -/
theorem Host.exists_execute {σ : Type} (host : Host (StateM σ)) (job : Job) (before : σ) :
    ∃ reply after, (host.execute job).run before
      = pure (conclude job.index job.run reply, after) :=
  ⟨((host.launch job.run).run before).1, _, rfl⟩

/-- Jobs with different positions that are carried out one after the other have
the outcomes of a launcher that answers for each job. -/
theorem Host.exists_mapM_execute {σ : Type} (host : Host (StateM σ)) (waiting : List Job)
    (distinct : (waiting.map Job.index).Nodup) (before : σ) :
    ∃ answer after, (waiting.mapM host.execute).run before
      = pure (waiting.map (Job.outcome answer), after) := by
  induction waiting generalizing before with
  | nil => exact ⟨fun _ => .broke none, before, rfl⟩
  | cons job rest inductionHypothesis =>
    rw [List.map_cons, List.nodup_cons] at distinct
    obtain ⟨reply, middle, executed⟩ := host.exists_execute job before
    obtain ⟨answer, after, continued⟩ := inductionHypothesis distinct.2 middle
    -- The reply for the first job does not disturb the answers for the others.
    let extended : Job → Reply := fun other =>
      if other.index = job.index then reply else answer other
    have others : rest.map (Job.outcome extended) = rest.map (Job.outcome answer) := by
      apply List.map_congr_left
      intro other member
      have apart : other.index ≠ job.index := fun same =>
        distinct.1 (same ▸ List.mem_map_of_mem member)
      simp [Job.outcome, extended, apart]
    have first : job.outcome extended = conclude job.index job.run reply := by
      simp [Job.outcome, extended]
    refine ⟨extended, after, ?_⟩
    rw [List.mapM_cons, List.map_cons, others, first, StateT.run_bind, executed, pure_bind,
      StateT.run_bind, continued, pure_bind]
    rfl

/-- Whatever machine works through runs one after the other, its outcomes are
those of the schedule in order. -/
theorem Host.exists_dispatch {σ : Type} (host : Host (StateM σ)) (runs : List Run) (before : σ) :
    ∃ answer after, (host.dispatch runs).run before = pure (Pool.inOrder answer runs, after) := by
  cases runs with
  | nil => exact ⟨fun _ => .broke none, before, rfl⟩
  | cons run rest =>
    have distinct : ((jobs (run :: rest)).map Job.index).Nodup := by
      rw [map_index_jobs]
      exact List.nodup_range
    obtain ⟨answer, after, executed⟩ := host.exists_mapM_execute _ distinct
      ((host.note .dispatching).run before).2
    exact ⟨answer, after, executed⟩

/-- What a machine does with a request follows a course of its sweep. -/
theorem Host.exists_course {σ : Type} (host : Host (StateM σ)) (request : Request)
    (table : ProtocolTable) (before : σ) :
    ∃ answer acts, Course.sweep (fun directory => ((host.makeDirectory directory).run before).1)
      answer request table acts ((host.sweep request table).run before).1 := by
  unfold Host.sweep sweepThrough
  cases prepared : prepare request table with
  | error failure =>
    exact ⟨fun _ => .broke none, [], Course.sweep_iff.mpr (.inl ⟨failure, prepared, rfl, rfl⟩)⟩
  | ok runs =>
    simp only [StateT.run_bind]
    rcases made : (host.makeDirectory request.outputDirectory).run before with
      ⟨failure | nothing, middle⟩
    · refine ⟨fun _ => .broke none, [.makeDirectory request.outputDirectory],
        Course.sweep_iff.mpr (.inr (.inl ⟨runs, failure, prepared, ?_, rfl, rfl⟩))⟩
      rw [made]
    · obtain ⟨answer, after, dispatched⟩ :=
        host.exists_dispatch runs ((host.note .directoryReady).run middle).2
      have completes := Pool.completes_inOrder (prepare_ok_iff.mp prepared).2 answer runs
      refine ⟨answer, _, Course.sweep_iff.mpr
        (.inr (.inr ⟨runs, Pool.inOrder answer runs, prepared, ?_, completes, rfl, ?_⟩))⟩
      · rw [made]
      · have ended : ((host.dispatch runs).run ((host.note .directoryReady).run middle).2).1
            = Pool.inOrder answer runs := congrArg Prod.fst dispatched
        exact congrArg (fun outcomes => Except.ok (Sweep.ofOutcomes runs outcomes)) ended

end DeltaStudy.Campaign
