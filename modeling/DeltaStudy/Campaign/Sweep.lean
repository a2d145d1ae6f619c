import DeltaStudy.Campaign.Pool
import DeltaStudy.Campaign.Tally
import DeltaStudy.Event

/-!
# Sweeps

Carrying out a campaign: plan it, make the directory of its artifacts, work
through the runs, tally the outcomes. Whatever is wrong with the request shows
before the directory is made, and the directory is made before the first run.

The surroundings of a sweep are a `Host`, so the same definition serves a real
machine, a simulated one and a pure answer for each run. How the runs of a plan
are worked through is left open by `sweepThrough`, so that it also serves a pool
that works through them in any order that it allows.
-/

namespace DeltaStudy.Campaign

/-- What a sweep asks of its surroundings. -/
structure Host (m : Type → Type) where
  /-- Make a directory with everything above it. -/
  makeDirectory : Path → m (Except Failure Unit)
  /-- Start the simulator for a run and wait for it. -/
  launch : Run → m Reply
  /-- Take notice of an event. -/
  note : Event → m Unit

/-- What a sweep leaves behind. -/
structure Sweep where
  /-- The plan. -/
  runs : List Run
  /-- The outcomes in the order in which the runs ended. -/
  outcomes : List Outcome
  /-- The tally of the outcomes. -/
  tally : Tally
deriving DecidableEq

/-- The sweep of a plan whose runs ended with these outcomes. -/
def Sweep.ofOutcomes (runs : List Run) (outcomes : List Outcome) : Sweep :=
  ⟨runs, outcomes, .ofOutcomes outcomes⟩

variable {m : Type → Type} [Monad m]

/-- Carry out one job. -/
def Host.execute (host : Host m) (job : Job) : m Outcome := do
  let reply ← host.launch job.run
  let outcome := conclude job.index job.run reply
  host.note (if outcome.success then .runComplete else .runFailed)
  return outcome

/-- Carry out the jobs of a plan, one after the other. Every larger pool allows
this schedule too. -/
def Host.dispatch (host : Host m) (runs : List Run) : m (List Outcome) := do
  if runs.isEmpty then
    return []
  else
    host.note .dispatching
    (jobs runs).mapM host.execute

/-- Without workers nothing can be carried out. -/
def checkWorkers (workers : Nat) : Except Failure Unit :=
  if workers = 0 then .error .noWorkers else .ok ()

/-- What can be said of a request before anything is done: its plan, and that it
has workers. -/
def prepare (request : Request) (table : ProtocolTable) : Except Failure (List Run) := do
  let runs ← plan request table
  checkWorkers request.workers
  return runs

/-- Carry out a campaign in surroundings that make its directory, take notice of
events and work through the runs of its plan. -/
def sweepThrough (makeDirectory : Path → m (Except Failure Unit)) (note : Event → m Unit)
    (dispatch : List Run → m (List Outcome)) (request : Request) (table : ProtocolTable) :
    m (Except Failure Sweep) := do
  match prepare request table with
  | .error failure => return .error failure
  | .ok runs =>
    match ← makeDirectory request.outputDirectory with
    | .error failure => return .error failure
    | .ok () =>
      note .directoryReady
      let outcomes ← dispatch runs
      return .ok (.ofOutcomes runs outcomes)

/-- Carry out a campaign, one run after the other. -/
def Host.sweep (host : Host m) (request : Request) (table : ProtocolTable) :
    m (Except Failure Sweep) :=
  sweepThrough host.makeDirectory host.note host.dispatch request table

end DeltaStudy.Campaign
