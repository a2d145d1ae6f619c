/-!
# Events

What a study tells about itself while it runs. An event decides its level and
its text; which events are shown is for the logging filter to say.
-/

namespace DeltaStudy

/-- How much an event matters, the most important level first. -/
inductive Level where
  /-- Something failed. -/
  | error
  /-- Something was left out or replaced. -/
  | warn
  /-- A stage was reached. -/
  | info
  /-- Details for somebody who looks for a fault. -/
  | debug
  /-- Everything. -/
  | trace
deriving DecidableEq, Repr

namespace Level

/-- The place of a level, counted from the most important one. -/
def rank : Level → Nat
  | .error => 0
  | .warn => 1
  | .info => 2
  | .debug => 3
  | .trace => 4

/-- The name of a level. -/
def name : Level → String
  | .error => "error"
  | .warn => "warn"
  | .info => "info"
  | .debug => "debug"
  | .trace => "trace"

end Level

/-- Something that a study tells. -/
inductive Event where
  /-- Events are shown from here on. -/
  | loggingReady
  /-- The output directory of a campaign exists. -/
  | directoryReady
  /-- The runs of a campaign begin. -/
  | dispatching
  /-- A simulator is about to be started. -/
  | launching
  /-- A run ended with success. -/
  | runComplete
  | runFailed
  /-- A header was not recognised, so columns count by position. -/
  | positionalColumns
  /-- An artifact has no mining times. -/
  | noMiningTime
  /-- Rows of an artifact were not valid. -/
  | rowsSkipped
  /-- An artifact was loaded and smoothed. -/
  | artifactAnalyzed
  /-- An artifact was left out of a comparison. -/
  | artifactSkipped
  /-- Mining times have no place on a logarithmic axis. -/
  | pointsOmitted
  | chartWritten
deriving DecidableEq, Repr

namespace Event

/-- The level of an event. -/
def level : Event → Level
  | .loggingReady | .directoryReady | .launching | .artifactAnalyzed => .debug
  | .dispatching | .runComplete | .chartWritten => .info
  | .runFailed | .positionalColumns | .noMiningTime | .rowsSkipped | .artifactSkipped
  | .pointsOmitted => .warn

/-- The text of an event. -/
def message : Event → String
  | .loggingReady => "logging initialized"
  | .directoryReady => "output directory ready"
  | .dispatching => "dispatching sweep"
  | .launching => "launching simulator"
  | .runComplete => "run complete"
  | .runFailed => "run failed"
  | .positionalColumns =>
    "expected `round`/`mining_time`/`difficulty` headers; unmatched fields use column positions"
  | .noMiningTime => "no `mining_time` column; mining time is treated as 0"
  | .rowsSkipped => "skipped unparsable rows"
  | .artifactAnalyzed => "artifact analyzed"
  | .artifactSkipped => "skipping artifact"
  | .pointsOmitted => "non-positive mining times omitted from log axis"
  | .chartWritten => "chart written"

end Event

end DeltaStudy
