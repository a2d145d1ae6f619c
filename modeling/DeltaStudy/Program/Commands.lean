import DeltaStudy.Campaign.Deltas
import DeltaStudy.CommandLine.Invocation
import DeltaStudy.Program.Circumstances
import DeltaStudy.Protocol.Rows
import DeltaStudy.Report.Artifact
import DeltaStudy.Study.Rendering

/-!
# Commands

The commands of the program. A command prints its report as far as it gets and
then fails with a cause, or ends well.
-/

namespace DeltaStudy.Program

open DeltaStudy.CommandLine

/-- A protocol table from the bytes of a file. -/
def tableOfBytes (file : Path) (bytes : List UInt8) : Except Failure ProtocolTable :=
  match Text.decodeUtf8 bytes with
  | .ok characters => ProtocolTable.ofJson (String.ofList characters)
  | .error (fault, index) => .error (.tableNotText file (fault.text index))

/-- The built-in protocol table with what a file adds to it. -/
def tableWith (file : Path) (content : Except Failure (List UInt8)) :
    Except Failure ProtocolTable := do
  match content with
  | .error failure => throw (.unreadableTable failure.message)
  | .ok bytes => return ProtocolTable.builtin.extend (← tableOfBytes file bytes)

/-- How `plot` draws. -/
def plotChart (options : PlotOptions) (source : Study.Source) : Chart.Options where
  window := options.window
  logScale := options.logScale
  output := options.output.getD (Study.plotOutput options.artifact)
  miningTime := true
  referenceLines := false
  title := "Mining Time and Difficulty: " ++ source.label

def comparisonTitle (options : CompareOptions) (directory : Path) : String :=
  if options.scan then "Difficulty: " ++ directory.text
  else if Text.trim options.protocol = "" then "Difficulty vs Δ/T"
  else "Difficulty vs Δ/T (" ++ options.protocol ++ ")"

/-- How `compare` draws. -/
def comparisonChart (options : CompareOptions) (directory : Path) : Chart.Options where
  window := options.window
  logScale := options.logScale
  output := options.output.getD (Study.comparisonOutput options.protocol)
  miningTime := !options.noMiningTime
  referenceLines := !options.noReference
  title := comparisonTitle options directory

/-- Whether a campaign went well as a whole. -/
def checkTally (tally : Campaign.Tally) : Except Failure Unit :=
  if tally.allSucceeded then .ok () else .error (.runsFailed tally.failed.length tally.total)

namespace Circumstances

variable {m : Type → Type} [Monad m] (circumstances : Circumstances m)

/-- Write to the output. -/
def print (text : String) : ExceptT Failure m Unit :=
  ExceptT.lift (circumstances.machine.print text)

/-- Write to the output and end the line. -/
def printLine (text : String) : ExceptT Failure m Unit :=
  circumstances.print (text ++ "\n")

/-- The protocol table, with the protocols in a file if one is given. -/
def protocols : Option Path → ExceptT Failure m ProtocolTable
  | none => return .builtin
  | some file => do
    let content ← ExceptT.lift (circumstances.machine.storage.read file)
    tableWith file content

/-- Carry out a campaign. -/
def runCampaign (options : RunOptions) : ExceptT Failure m Unit := do
  let table ← circumstances.protocols options.protocols
  let deltas ← Campaign.readDeltas options.deltas
  let processors ← ExceptT.lift circumstances.machine.processors
  let request := options.request deltas circumstances.dataDirectory processors
  let generationTime ← table.resolve request.protocol request.generationTime
  let simulator := options.simulator.getD circumstances.simulator
  let workers := min request.workers (max deltas.length 1)
  circumstances.printLine (Report.header request generationTime workers simulator)
  let sweep ← ExceptT.mk ((circumstances.host simulator).sweep request table)
  sweep.outcomes.forM fun outcome => circumstances.printLine (Report.outcomeLine outcome)
  circumstances.printLine ""
  let finished ← ExceptT.lift circumstances.machine.now
  circumstances.printLine (Report.summary sweep.tally finished)
  checkTally sweep.tally

/-- Chart one artifact and report on it. -/
def plotArtifact (options : PlotOptions) : ExceptT Failure m Unit := do
  let source := Study.Source.ofFile options.artifact
  let chart := plotChart options source
  Chart.checkOutput chart.output
  let (analysis, written) ← ExceptT.mk (circumstances.desk.plot source chart)
  circumstances.printLine ("Plot saved to " ++ written.text)
  circumstances.printLine ""
  circumstances.printLine
    (Report.statistics analysis.measurements analysis.statistics options.window)
  circumstances.printLine (Report.sample analysis.series Report.sampleSize)

/-- The artifacts that `compare` is asked for. -/
def sources (options : CompareOptions) (directory : Path) :
    ExceptT Failure m (List Study.Source) := do
  if options.scan then
    ExceptT.mk (circumstances.desk.scanDirectory directory)
  else
    return Study.sourcesOfDeltas directory options.protocol (← Campaign.readDeltas options.deltas)

/-- Chart several artifacts. -/
def compareArtifacts (options : CompareOptions) : ExceptT Failure m Unit := do
  let directory := options.dataDirectory.getD circumstances.dataDirectory
  let sources ← circumstances.sources options directory
  let chart := comparisonChart options directory
  Chart.checkOutput chart.output
  let comparison ← ExceptT.mk (circumstances.desk.compare sources options.window)
  circumstances.print (Report.skipped comparison.skipped)
  let written ← ExceptT.mk (circumstances.desk.render comparison.content chart)
  circumstances.printLine
    ("Compared " ++ Numeral.decimalText comparison.content.series.length
      ++ " artifact(s); chart saved to " ++ written.text)

/-- Carry out a command. -/
def carryOut : Command → ExceptT Failure m Unit
  | .run options => circumstances.runCampaign options
  | .plot options => circumstances.plotArtifact options
  | .compare options => circumstances.compareArtifacts options

end Circumstances

end DeltaStudy.Program
