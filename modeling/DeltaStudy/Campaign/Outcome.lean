import DeltaStudy.Campaign.Plan
import DeltaStudy.Settings.Bindings

/-!
# Outcomes

The simulator is started once for a run and answers in one of three ways: it
ends, it cannot be started, or the launcher itself breaks down. Every answer
becomes an outcome of that run alone; none of them stops the campaign.
-/

namespace DeltaStudy.Campaign

/-- How the launcher answers for a run. -/
inductive Reply where
  /-- The simulator ended, by itself or through a signal, and wrote this much. -/
  | ended (status : Option Int) (stdout stderr : String)
  /-- The simulator could not be run. -/
  | refused (failure : Failure)
  /-- The launcher broke down, possibly without leaving a text. -/
  | broke (complaint : Option String)
deriving DecidableEq

/-- How a run came out. -/
structure Outcome where
  /-- The position of the run in the plan. -/
  index : Nat
  /-- The Δ/T value of the run. -/
  delta : Float
  /-- Whether the simulator ended with status zero. -/
  success : Bool
  /-- What the simulator wrote to its output. -/
  stdout : String
  /-- What the simulator wrote to its error output. -/
  stderr : String
  /-- Why the run failed. -/
  failure : Option String
deriving DecidableEq

/-- The cause of failure that a reply carries, if it is one. -/
def Reply.failure? (delta : Float) : Reply → Option Failure
  | .ended (some 0) _ _ => none
  | .ended status _ stderr => some (.runFailed delta status (Text.trim stderr))
  | .refused failure => some failure
  | .broke complaint => some (.launcherBroke delta (complaint.getD "unknown panic"))

/-- What the simulator wrote, which is nothing unless it ended. -/
def Reply.output : Reply → String × String
  | .ended _ stdout stderr => (stdout, stderr)
  | _ => ("", "")

/-- The outcome of a run, given the launcher's reply. -/
def conclude (index : Nat) (run : Run) (reply : Reply) : Outcome :=
  let failure := reply.failure? run.delta
  { index
    delta := run.delta
    success := failure.isNone
    stdout := reply.output.1
    stderr := reply.output.2
    failure := failure.map Failure.message }

/-- The arguments that a run gives to the simulator. -/
def Run.arguments (run : Run) : List String :=
  [ "--num-nodes=" ++ Numeral.decimalText run.nodes
  , "--end-round=" ++ Numeral.decimalText run.endRound
  , "--delay=" ++ Numeral.decimalText run.delay.toNat
  , "--generation-time=" ++ Numeral.decimalText run.generationTime.toNat
  , "--protocol=" ++ run.protocol
  , "--output=" ++ run.artifact.text ]

/-- What every simulator finds in its environment. -/
def simulatorEnvironment : Settings.Bindings :=
  [("RUST_LOG", "info")]

/-- The line that would start the simulator for a run. -/
def Run.commandLine (simulator : Path) (run : Run) : String :=
  Text.joined " "
    (simulatorEnvironment.map (fun (name, value) => name ++ "=" ++ value)
      ++ simulator.text :: run.arguments)

end DeltaStudy.Campaign
