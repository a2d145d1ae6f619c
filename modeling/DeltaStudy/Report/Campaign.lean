import DeltaStudy.Campaign.Tally
import DeltaStudy.Text.Lines

/-!
# Reports on campaigns

What is printed before a campaign, for every run that ended, and at the end.
Reports consist of lines; the only texts in them that may have lines of their
own are those of failures, and their further lines are indented so that they
cannot be taken for entries.
-/

namespace DeltaStudy.Report

/-- A moment by the calendar. -/
structure Moment where
  year : Nat
  /-- The month, from 1 on. -/
  month : Nat
  /-- The day of the month, from 1 on. -/
  day : Nat
  hour : Nat
  minute : Nat
  second : Nat
deriving DecidableEq, Repr

/-- A number with zeros in front. -/
def padded (count value : Nat) : String :=
  String.ofList (Numeral.paddedDigits count value)

/-- A moment as a date and a time. -/
def Moment.text (moment : Moment) : String :=
  Text.joined "-" [padded 4 moment.year, padded 2 moment.month, padded 2 moment.day] ++ " "
    ++ Text.joined ":" [padded 2 moment.hour, padded 2 moment.minute, padded 2 moment.second]

/-- Δ/T values between brackets. -/
def deltasText (deltas : List Float) : String :=
  "[" ++ Text.joined ", " (deltas.map Numeral.shortest) ++ "]"

/-- The lines in front of a campaign. -/
def headerLines (request : Campaign.Request) (generationTime : UInt64) (workers : Nat)
    (simulator : Path) : List String :=
  [ "=== dsweep - Δ/T sweep ==="
  , "Protocol: " ++ request.protocol
  , "Δ/T values: " ++ deltasText request.deltas
  , "Nodes: " ++ Numeral.decimalText request.nodes
  , "Generation time: " ++ Numeral.decimalText generationTime.toNat ++ " ms"
  , "End round: " ++ Numeral.decimalText request.endRound
  , "Workers: " ++ Numeral.decimalText workers
  , "Simulator: " ++ simulator.text
  , "Output dir: " ++ request.outputDirectory.text
  , String.ofList (List.replicate 50 '=') ]

/-- What is printed before a campaign. -/
def header (request : Campaign.Request) (generationTime : UInt64) (workers : Nat)
    (simulator : Path) : String :=
  Text.written (headerLines request generationTime workers simulator)

/-- Why a run failed, in words. -/
def reasonOf (outcome : Campaign.Outcome) : String :=
  outcome.failure.getD "unknown failure"

/-- The line for a run that ended. -/
def outcomeLine (outcome : Campaign.Outcome) : String :=
  if outcome.success then
    "✓ Δ/T=" ++ Numeral.shortest outcome.delta ++ " finished"
  else
    "✗ Δ/T=" ++ Numeral.shortest outcome.delta ++ " failed: " ++ Text.firstLine (reasonOf outcome)

/-- The entry of a failed run at the end of a campaign. -/
def failureEntry (outcome : Campaign.Outcome) : String :=
  "- Δ/T=" ++ Numeral.shortest outcome.delta ++ ": " ++ Text.indented (reasonOf outcome)

/-- The entries of the failed runs, after their heading. -/
def failureSection (tally : Campaign.Tally) : List String :=
  if tally.failed.isEmpty then [] else "" :: "Failures:" :: tally.failed.map failureEntry

/-- What is printed at the end of a campaign. -/
def summary (tally : Campaign.Tally) (finished : Moment) : String :=
  Text.written
    ([ "=== Sweep summary ==="
     , "Finished: " ++ finished.text
     , "Total: " ++ Numeral.decimalText tally.total
         ++ " | succeeded: " ++ Numeral.decimalText tally.successful.length
         ++ " | failed: " ++ Numeral.decimalText tally.failed.length
     , "Succeeded Δ/T: " ++ deltasText tally.successfulDeltas
     , "Failed Δ/T: " ++ deltasText tally.failedDeltas ]
      ++ failureSection tally)

end DeltaStudy.Report
