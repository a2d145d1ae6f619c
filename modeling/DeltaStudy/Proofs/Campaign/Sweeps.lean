import Mathlib.Control.Monad.Basic
import DeltaStudy.Proofs.Campaign.Courses
import DeltaStudy.Proofs.Storage.Directories

/-!
# What can be relied on in a sweep

A sweep fails before its first run or not at all, and how a pool orders the runs
shows in the order of the outcomes alone. Both are read off from the courses of a
sweep, for every store, launcher and schedule.
-/

namespace DeltaStudy

/-- A file tree that refuses a directory takes it for a fault of the request. -/
theorem Storage.FileTree.makeDirectory_error_kind {tree : FileTree} {directory : Path}
    {failure : Failure}
    (refused : ((storage.makeDirectory directory).run tree).1 = .error failure) :
    failure.kind = .configuration := by
  rw [run_makeDirectory] at refused
  split at refused
  · cases refused
  · cases refused
    rfl

namespace Campaign.Course

variable {store : Path → Except Failure Unit} {answer : Job → Reply} {request : Request}
  {table : ProtocolTable}

/-- What a sweep promises about its acts and its result. -/
structure FailsFast (store : Path → Except Failure Unit) (request : Request)
    (table : ProtocolTable) (acts : List Act) (result : Except Failure Sweep) : Prop where
  /-- A sweep that fails blames the request and has launched nothing. -/
  blames : ∀ failure, result = .error failure →
    failure.kind = .configuration ∧ ∀ run, .launch run ∉ acts
  /-- The directory is asked for exactly if the request is planned and has workers. -/
  asks_iff : (∃ directory, .makeDirectory directory ∈ acts) ↔
    (∃ runs, plan request table = .ok runs) ∧ 0 < request.workers
  /-- It is the directory of the request, asked for once and before anything else. -/
  asks_first : ∀ directory, .makeDirectory directory ∈ acts →
    ∃ launches, acts = .makeDirectory request.outputDirectory :: launches
      ∧ ∀ other, .makeDirectory other ∉ launches
  /-- A sweep that does not fail has launched every run of the plan once. -/
  launches : ∀ completed, result = .ok completed →
    plan request table = .ok completed.runs
      ∧ acts = .makeDirectory request.outputDirectory :: completed.runs.map .launch
  /-- Once the directory is made nothing makes the sweep fail. -/
  contains : (∃ runs, plan request table = .ok runs) → 0 < request.workers →
    store request.outputDirectory = .ok () → ∃ completed, result = .ok completed

/-- A request that is refused fails fast. -/
theorem FailsFast.of_refused {failure : Failure}
    (refused : prepare request table = .error failure) :
    FailsFast store request table [] (.error failure) := by
  have unprepared : ¬ ((∃ runs, plan request table = .ok runs) ∧ 0 < request.workers) := by
    rintro ⟨⟨runs, planned⟩, staffed⟩
    rw [prepare_ok_iff.mpr ⟨planned, staffed⟩] at refused
    cases refused
  refine ⟨?_, ?_, by simp, by simp, fun planned staffed _ => absurd ⟨planned, staffed⟩ unprepared⟩
  · rintro _ ⟨rfl⟩
    exact ⟨prepare_error_kind refused, by simp⟩
  · simp only [List.not_mem_nil, exists_false, false_iff]
    exact unprepared

/-- A request whose directory is refused fails fast, if the store blames the request. -/
theorem FailsFast.of_unmade {runs : List Run} {failure : Failure}
    (prepared : prepare request table = .ok runs)
    (unmade : store request.outputDirectory = .error failure)
    (blamed : failure.kind = .configuration) :
    FailsFast store request table [.makeDirectory request.outputDirectory] (.error failure) := by
  obtain ⟨planned, staffed⟩ := prepare_ok_iff.mp prepared
  refine ⟨?_, ?_, ?_, by simp, ?_⟩
  · rintro _ ⟨rfl⟩
    exact ⟨blamed, by simp⟩
  · simpa using ⟨⟨runs, planned⟩, staffed⟩
  · intro directory _
    exact ⟨[], rfl, by simp⟩
  · intro _ _ made
    rw [unmade] at made
    cases made

/-- A sweep that launches the runs of its plan keeps the promise. -/
theorem FailsFast.of_launched {runs : List Run} {outcomes : List Outcome}
    (prepared : prepare request table = .ok runs) :
    FailsFast store request table
      (.makeDirectory request.outputDirectory :: runs.map .launch)
      (.ok (.ofOutcomes runs outcomes)) := by
  obtain ⟨planned, staffed⟩ := prepare_ok_iff.mp prepared
  refine ⟨by simp, ?_, ?_, ?_, fun _ _ _ => ⟨_, rfl⟩⟩
  · simpa using ⟨⟨runs, planned⟩, staffed⟩
  · intro directory _
    exact ⟨runs.map .launch, rfl, by simp⟩
  · rintro _ ⟨rfl⟩
    exact ⟨planned, rfl⟩

/-- Every sweep fails fast, whatever the launcher answers and however a pool orders
the runs, if a store that refuses a directory blames the request. -/
theorem sweep_failsFast
    (blamed : ∀ directory failure, store directory = .error failure →
      failure.kind = .configuration) :
    (∃ acts result, sweep store answer request table acts result)
    ∧ ∀ acts result, sweep store answer request table acts result →
      FailsFast store request table acts result := by
  refine ⟨exists_sweep store answer request table, ?_⟩
  intro acts result course
  rcases sweep_iff.mp course with ⟨failure, refused, rfl, rfl⟩
    | ⟨runs, failure, prepared, unmade, rfl, rfl⟩ | ⟨runs, outcomes, prepared, -, -, rfl, rfl⟩
  · exact .of_refused refused
  · exact .of_unmade prepared unmade (blamed _ _ unmade)
  · exact .of_launched prepared

/-- A file in the place of the directory makes a sweep fail before it launches anything. -/
theorem sweep_failsFast_taken :
    let tree : Storage.FileTree := ⟨[(["data"], .file [] false)], []⟩
    let store (directory : Path) := ((Storage.FileTree.storage.makeDirectory directory).run tree).1
    let request : Request := ⟨"ethereum", [0.5, 0.25], 10, 1000, none, ⟨"data"⟩, 2⟩
    store request.outputDirectory = .error (.unmadeDirectory ⟨"data"⟩ .alreadyExists)
    ∧ (∃ acts result, sweep store (fun _ => .broke none) request .builtin acts result)
    ∧ ∀ acts result, sweep store (fun _ => .broke none) request .builtin acts result →
      FailsFast store request .builtin acts result := by
  intro tree store request
  exact ⟨by decide +kernel,
    sweep_failsFast fun _ _ => Storage.FileTree.makeDirectory_error_kind⟩

/-- A sweep that is planned and has workers ends with the refusal of its directory or
with the outcomes of a schedule. -/
theorem sweep_iff_of_planned {runs : List Run} {workers : Nat}
    (planned : plan request table = .ok runs) (staffed : 0 < workers) {acts : List Act}
    {result : Except Failure Sweep} :
    sweep store answer { request with workers } table acts result ↔
      (∃ failure, store request.outputDirectory = .error failure
        ∧ acts = [.makeDirectory request.outputDirectory] ∧ result = .error failure)
      ∨ (∃ outcomes, store request.outputDirectory = .ok ()
        ∧ Pool.Completes (Pool.capacity workers runs.length) answer runs outcomes
        ∧ acts = .makeDirectory request.outputDirectory :: runs.map .launch
        ∧ result = .ok (.ofOutcomes runs outcomes)) := by
  have prepared : prepare { request with workers } table = .ok runs :=
    prepare_ok_iff.mpr ⟨(plan_workers request workers table).trans planned, staffed⟩
  rw [sweep_iff]
  simp only [prepared]
  constructor
  · rintro (⟨_, impossible, -⟩ | ⟨_, failure, -, unmade⟩ | ⟨_, outcomes, ⟨rfl⟩, sent⟩)
    · cases impossible
    · exact .inl ⟨failure, unmade⟩
    · exact .inr ⟨outcomes, sent⟩
  · rintro (⟨failure, unmade⟩ | ⟨outcomes, sent⟩)
    · exact .inr (.inl ⟨runs, failure, rfl, unmade⟩)
    · exact .inr (.inr ⟨runs, outcomes, rfl, sent⟩)

/-- What two sweeps of one plan have in common. -/
structure Alike (deltas : List Float) (runs : List Run) (left right : Sweep) : Prop where
  /-- The first sweep has the runs of the plan. -/
  left_runs : left.runs = runs
  /-- So has the second. -/
  right_runs : right.runs = runs
  /-- Their tallies are the same. -/
  tally_eq : left.tally = right.tally
  /-- Their outcomes differ in the order alone. -/
  outcomes_perm : left.outcomes.Perm right.outcomes
  /-- The tally accounts for every outcome and every value. -/
  accounts : left.tally.Accounts left.outcomes deltas

/-- Two sweeps whose pools have completed one plan are alike, if the launcher answers
for a run whatever job it belongs to. -/
theorem alike_of_completes {launcher : Run → Reply} {runs : List Run} {room room' : Nat}
    {left right : List Outcome} (planned : plan request table = .ok runs)
    (leftCompletes : Pool.Completes room (fun job => launcher job.run) runs left)
    (rightCompletes : Pool.Completes room' (fun job => launcher job.run) runs right) :
    Alike request.deltas runs (.ofOutcomes runs left) (.ofOutcomes runs right) := by
  have ascending := ascending_inOrder (fun job => launcher job.run) runs
  obtain ⟨generationTime, settled⟩ := exists_settle_of_plan planned
  refine ⟨rfl, rfl, ?_, leftCompletes.perm.trans rightCompletes.perm.symm, ?_⟩
  · exact (Tally.ofOutcomes_of_perm ascending leftCompletes.perm).trans
      (Tally.ofOutcomes_of_perm ascending rightCompletes.perm).symm
  · exact Tally.accounts_of_perm (fun _ => rfl) (settled ▸ leftCompletes.perm)

/-- Two sweeps of one request with different numbers of workers, each with a
schedule of its own, come to an end, and are alike unless the directory is refused
to both. -/
theorem sweep_schedule_independent {launcher : Run → Reply} {runs : List Run} {first second : Nat}
    (planned : plan request table = .ok runs) (firstStaffed : 0 < first)
    (secondStaffed : 0 < second) :
    (∃ acts result, sweep store (fun job => launcher job.run)
        { request with workers := first } table acts result)
    ∧ ∀ acts result acts' result',
        sweep store (fun job => launcher job.run) { request with workers := first } table
          acts result →
        sweep store (fun job => launcher job.run) { request with workers := second } table
          acts' result' →
        (∃ failure, store request.outputDirectory = .error failure
          ∧ result = .error failure ∧ result' = .error failure)
        ∨ ∃ left right, result = .ok left ∧ result' = .ok right
          ∧ Alike request.deltas runs left right := by
  refine ⟨exists_sweep store _ _ table, ?_⟩
  intro acts result acts' result' leftCourse rightCourse
  rcases (sweep_iff_of_planned planned firstStaffed).mp leftCourse with
    ⟨failure, unmade, -, rfl⟩ | ⟨left, made, leftCompletes, -, rfl⟩
  · rcases (sweep_iff_of_planned planned secondStaffed).mp rightCourse with
      ⟨_, again, -, rfl⟩ | ⟨_, made, -⟩
    · rw [unmade] at again
      cases again
      exact .inl ⟨failure, unmade, rfl, rfl⟩
    · rw [unmade] at made
      cases made
  · rcases (sweep_iff_of_planned planned secondStaffed).mp rightCourse with
      ⟨_, unmade, -⟩ | ⟨right, -, rightCompletes, -, rfl⟩
    · rw [made] at unmade
      cases unmade
    · exact .inr ⟨_, _, rfl, rfl, alike_of_completes planned leftCompletes rightCompletes⟩

/-- One worker and two workers sweep two runs alike. -/
theorem sweep_schedule_independent_two_workers :
    let request : Request := ⟨" Ethereum", [0.5, 0.25], 10, 1000, none, ⟨"data"⟩, 2⟩
    let runs : List Run :=
      [⟨"ethereum", 0.5, 7500, 15000, 10, 1000, ⟨"data/ethereum-0.5.csv"⟩⟩,
        ⟨"ethereum", 0.25, 3750, 15000, 10, 1000, ⟨"data/ethereum-0.25.csv"⟩⟩]
    let store : Path → Except Failure Unit := fun _ => .ok ()
    let launcher : Run → Reply := fun run =>
      if run.delta = 0.5 then .broke none else .ended (some 0) "done" ""
    plan request .builtin = .ok runs
    ∧ ∀ acts result acts' result',
        sweep store (fun job => launcher job.run) { request with workers := 1 } .builtin
          acts result →
        sweep store (fun job => launcher job.run) { request with workers := 2 } .builtin
          acts' result' →
        (∃ failure, store request.outputDirectory = .error failure
          ∧ result = .error failure ∧ result' = .error failure)
        ∨ ∃ left right, result = .ok left ∧ result' = .ok right
          ∧ Alike [0.5, 0.25] runs left right := by
  intro request runs store launcher
  have planned : plan request .builtin = .ok runs := by decide +kernel
  exact ⟨planned, (sweep_schedule_independent planned (by decide) (by decide)).2⟩

end Campaign.Course

end DeltaStudy
