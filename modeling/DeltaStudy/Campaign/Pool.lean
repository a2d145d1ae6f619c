import DeltaStudy.Campaign.Outcome

/-!
# The worker pool

A pool of bounded size works through the runs of a plan. Runs start in the order
of the plan, at most so many are under way at a time, and each that ends sends
its outcome. The relation `Pool.Step` is authoritative: it allows every order in
which runs may end. `Pool.inOrder` is the one schedule in which every run ends
before the run after it does.

It is taken for granted that the threads of a pool can be started, that they take
up jobs in the order in which these were handed over, and that a channel neither
loses nor reorders what is sent through it.
-/

namespace DeltaStudy.Campaign

/-- A run with its position in the plan. -/
structure Job where
  /-- The position in the plan. -/
  index : Nat
  run : Run
deriving DecidableEq

/-- The jobs of a plan in their order. -/
def jobs (runs : List Run) : List Job :=
  runs.zipIdx.map fun (run, index) => ⟨index, run⟩

/-- The outcome of a job, given what the launcher answers. A launcher that is
called for equal runs of different jobs may answer them differently. -/
def Job.outcome (answer : Job → Reply) (job : Job) : Outcome :=
  conclude job.index job.run (answer job)

namespace Pool

/-- The number of runs that a pool has under way at most: no more than it has
workers, and no more than there are runs. -/
def capacity (workers runs : Nat) : Nat :=
  min workers runs

/-- What a pool holds at a moment. -/
structure State where
  /-- The jobs that have not started, in the order in which they will. -/
  waiting : List Job
  /-- The jobs that are under way. -/
  running : List Job
  /-- The outcomes sent so far, in the order of sending. -/
  sent : List Outcome

/-- A pool before its first run. -/
def State.initial (runs : List Run) : State :=
  ⟨jobs runs, [], []⟩

/-- A pool that has nothing left to do. -/
def State.finished (state : State) : Prop :=
  state.waiting = [] ∧ state.running = []

/-- What a pool does at a moment. -/
inductive Move where
  /-- A job starts: the launcher is called for its run. -/
  | start (job : Job)
  /-- A job ends and sends its outcome. -/
  | finish (job : Job)
deriving DecidableEq

/-- The job that a move starts, if it starts one. -/
def Move.started? : Move → Option Job
  | .start job => some job
  | .finish _ => none

/-- The jobs that are started by moves, in their order. -/
def started (moves : List Move) : List Job :=
  moves.filterMap Move.started?

/-- The moves that a pool may make: the next job starts if there is room, or any
job that is under way ends and sends its outcome. -/
inductive Step (room : Nat) (answer : Job → Reply) : State → Move → State → Prop where
  | start {job waiting running sent} (free : running.length < room) :
      Step room answer ⟨job :: waiting, running, sent⟩ (.start job)
        ⟨waiting, running ++ [job], sent⟩
  | finish {job waiting sent} (before after) :
      Step room answer ⟨waiting, before ++ job :: after, sent⟩ (.finish job)
        ⟨waiting, before ++ after, sent ++ [job.outcome answer]⟩

/-- Zero or more moves of a pool. -/
inductive Steps (room : Nat) (answer : Job → Reply) : State → List Move → State → Prop where
  | refl {state} : Steps room answer state [] state
  | step {first moves middle move last} (prior : Steps room answer first moves middle)
      (next : Step room answer middle move last) : Steps room answer first (moves ++ [move]) last

/-- Two sequences of moves that meet make one. -/
theorem Steps.trans {room : Nat} {answer : Job → Reply} {first middle last : State}
    {earlier later : List Move} (left : Steps room answer first earlier middle)
    (right : Steps room answer middle later last) :
    Steps room answer first (earlier ++ later) last := by
  induction right with
  | refl => simpa using left
  | step _ next inductionHypothesis =>
    simpa [List.append_assoc] using Steps.step inductionHypothesis next

/-- The outcomes of a pool in which every run ends before the next one does. -/
def inOrder (answer : Job → Reply) (runs : List Run) : List Outcome :=
  (jobs runs).map (Job.outcome answer)

/-- A job that starts in an empty pool and ends at once is two moves. -/
theorem Steps.startFinish {room : Nat} (answer : Job → Reply) (positive : 0 < room)
    (job : Job) (waiting : List Job) (sent : List Outcome) :
    Steps room answer ⟨job :: waiting, [], sent⟩ [.start job, .finish job]
      ⟨waiting, [], sent ++ [job.outcome answer]⟩ := by
  have ends : Step room answer ⟨waiting, [] ++ job :: [], sent⟩ (.finish job)
      ⟨waiting, [] ++ [], sent ++ [job.outcome answer]⟩ := .finish [] []
  exact .step (.step .refl (.start (by simpa using positive))) ends

/-- The moves that take up jobs one after the other. -/
def oneByOne : List Job → List Move
  | [] => []
  | job :: rest => .start job :: .finish job :: oneByOne rest

/-- A pool with room for one job can work through any jobs in their order. -/
theorem Steps.sequential {room : Nat} (answer : Job → Reply) (positive : 0 < room)
    (waiting : List Job) (sent : List Outcome) :
    Steps room answer ⟨waiting, [], sent⟩ (oneByOne waiting)
      ⟨[], [], sent ++ waiting.map (Job.outcome answer)⟩ := by
  induction waiting generalizing sent with
  | nil => simpa [oneByOne] using Steps.refl
  | cons job rest inductionHypothesis =>
    have rest_steps := inductionHypothesis (sent ++ [job.outcome answer])
    exact (Steps.startFinish answer positive job rest sent).trans (by simpa using rest_steps)

/-- The schedule in order is one of those that a pool allows. -/
theorem inOrder_reachable {room : Nat} (answer : Job → Reply) (positive : 0 < room)
    (runs : List Run) :
    Steps room answer (.initial runs) (oneByOne (jobs runs)) ⟨[], [], inOrder answer runs⟩ := by
  simpa [State.initial, inOrder] using Steps.sequential answer positive (jobs runs) []

end Pool

end DeltaStudy.Campaign
