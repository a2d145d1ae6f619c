import DeltaStudy.Campaign.Plan
import DeltaStudy.CommandLine.Reading

/-!
# Invocations

The commands of the program with their options: `run` carries out a campaign,
`plot` charts one artifact, `compare` charts several. Options that are not given
keep their defaults; a path whose default depends on the environment stays open.
-/

namespace DeltaStudy.CommandLine

/-- The Δ/T values that are used unless others are given. -/
def defaultDeltas : String := "0.001,0.01,0.05,0.1,0.25,0.5,0.75,1.0"

/-- The window of the moving average unless another one is given. -/
def defaultWindow : Nat := 1000

/-- What `run` is asked for. -/
structure RunOptions where
  protocol : String
  /-- The list of Δ/T values, as it was typed. -/
  deltas : String
  /-- The number of nodes. -/
  nodes : Nat
  /-- The generation time that replaces that of the protocol. -/
  generationTime : Option UInt64
  /-- The last round. -/
  endRound : Nat
  /-- The number of runs that may be under way at a time. -/
  workers : Option Nat
  /-- Whether only one run may be under way. -/
  serial : Bool
  simulator : Option Path
  /-- The directory of the artifacts. -/
  outputDirectory : Option Path
  /-- A file with further protocols. -/
  protocols : Option Path
deriving DecidableEq

/-- What `plot` is asked for. -/
structure PlotOptions where
  artifact : Path
  /-- The window of the moving average. -/
  window : Nat
  /-- Whether mining times are placed by their logarithm. -/
  logScale : Bool
  /-- Where the chart is written. -/
  output : Option Path
deriving DecidableEq

/-- What `compare` is asked for. -/
structure CompareOptions where
  protocol : String
  /-- The list of Δ/T values, as it was typed. -/
  deltas : String
  /-- The directory of the artifacts. -/
  dataDirectory : Option Path
  /-- The window of the moving average. -/
  window : Nat
  /-- Whether mining times are placed by their logarithm. -/
  logScale : Bool
  /-- Whether mining times are left out. -/
  noMiningTime : Bool
  /-- Whether references are left out. -/
  noReference : Bool
  /-- Whether everything in the directory is compared. -/
  scan : Bool
  /-- Where the chart is written. -/
  output : Option Path
deriving DecidableEq

/-- A command with its options. -/
inductive Command where
  /-- Carry out a campaign. -/
  | run (options : RunOptions)
  /-- Chart one artifact. -/
  | plot (options : PlotOptions)
  /-- Chart several artifacts. -/
  | compare (options : CompareOptions)
deriving DecidableEq

/-- What the program is asked for. -/
structure Invocation where
  /-- How often more output was asked for, less how often less was. -/
  verbosity : Int
  command : Command
deriving DecidableEq

/-- The options that may stand in front of a command as well as after it. -/
def commonOptions : List Parameter :=
  [⟨"verbose", some 'v', .counter⟩, ⟨"quiet", some 'q', .counter⟩, ⟨"help", some 'h', .help⟩]

/-- The arguments in front of a command. -/
def outerGrammar : Grammar where
  options := commonOptions ++ [⟨"version", some 'V', .version⟩]
  positional := none
  commands := ["run", "plot", "compare", "help"]

/-- The arguments of `run`. -/
def runGrammar : Grammar where
  options := commonOptions ++
    [ ⟨"protocol", none, .text⟩, ⟨"delta-values", none, .text⟩, ⟨"num-nodes", none, .halfWord⟩
    , ⟨"generation-time", none, .word⟩, ⟨"end-round", none, .word⟩, ⟨"max-workers", none, .word⟩
    , ⟨"serial", none, .switch⟩, ⟨"simulator", none, .path⟩, ⟨"output-dir", none, .path⟩
    , ⟨"protocols", none, .path⟩ ]
  positional := none
  commands := []

/-- The arguments of `plot`. -/
def plotGrammar : Grammar where
  options := commonOptions ++
    [ ⟨"window", some 'w', .word⟩, ⟨"log-scale", some 'l', .switch⟩, ⟨"output", some 'o', .path⟩ ]
  positional := some ⟨"CSV", none, .path⟩
  commands := []

/-- The arguments of `compare`. -/
def compareGrammar : Grammar where
  options := commonOptions ++
    [ ⟨"protocol", none, .text⟩, ⟨"deltas", none, .text⟩, ⟨"data-dir", none, .path⟩
    , ⟨"window", some 'w', .word⟩, ⟨"log-scale", some 'l', .switch⟩
    , ⟨"no-mining-time", none, .switch⟩, ⟨"no-reference", none, .switch⟩
    , ⟨"scan", none, .switch⟩, ⟨"output", some 'o', .path⟩ ]
  positional := none
  commands := []

namespace Reading

/-- The text of a parameter. -/
def text? (reading : Reading) (name : String) : Option String :=
  match reading.value? name with
  | some (.text text) => some text
  | _ => none

/-- The path of a parameter. -/
def path? (reading : Reading) (name : String) : Option Path :=
  (reading.text? name).map Path.mk

/-- The number of a parameter. -/
def number? (reading : Reading) (name : String) : Option Nat :=
  match reading.value? name with
  | some (.number number) => some number
  | _ => none

/-- Whether a switch is on. -/
def isOn (reading : Reading) (name : String) : Bool :=
  (reading.value? name).isSome

/-- Two parameters that exclude each other. -/
def exclude (reading : Reading) (first second : String) : Except Problem Unit :=
  if reading.isOn first && reading.isOn second then .error (.conflict first second) else .ok ()

end Reading

def runOptions (reading : Reading) : Except Problem RunOptions := do
  reading.exclude "serial" "max-workers"
  return {
    protocol := (reading.text? "protocol").getD "ethereum"
    deltas := (reading.text? "delta-values").getD defaultDeltas
    nodes := (reading.number? "num-nodes").getD 100
    generationTime := (reading.number? "generation-time").map UInt64.ofNat
    endRound := (reading.number? "end-round").getD 80000
    workers := reading.number? "max-workers"
    serial := reading.isOn "serial"
    simulator := reading.path? "simulator"
    outputDirectory := reading.path? "output-dir"
    protocols := reading.path? "protocols" }

def plotOptions (reading : Reading) : Except Problem PlotOptions := do
  match reading.path? "CSV" with
  | none => throw (.missingArgument "CSV")
  | some artifact => return {
      artifact
      window := (reading.number? "window").getD defaultWindow
      logScale := reading.isOn "log-scale"
      output := reading.path? "output" }

def compareOptions (reading : Reading) : Except Problem CompareOptions := do
  reading.exclude "scan" "deltas"
  return {
    protocol := (reading.text? "protocol").getD "ethereum"
    deltas := (reading.text? "deltas").getD defaultDeltas
    dataDirectory := reading.path? "data-dir"
    window := (reading.number? "window").getD defaultWindow
    logScale := reading.isOn "log-scale"
    noMiningTime := reading.isOn "no-mining-time"
    noReference := reading.isOn "no-reference"
    scan := reading.isOn "scan"
    output := reading.path? "output" }

/-- How often a common option was given. What stands after the command replaces
what stands in front of it. -/
def commonCount (outer inner : Reading) (name : String) : Int :=
  (inner.number? name).getD (outer.count name)

/-- The verbosity, kept between the bounds of a signed byte. -/
def verbosityOf (outer inner : Reading) : Int :=
  max (-128) (min 127 (commonCount outer inner "verbose" - commonCount outer inner "quiet"))

/-- Read the arguments of a command. -/
def readCommand (outer : Reading) (grammar : Grammar) (arguments : List String)
    (command : Reading → Except Problem Command) : Except Problem Invocation := do
  let (inner, _) ← takeArguments grammar .initial arguments
  return ⟨verbosityOf outer inner, ← command inner⟩

/-- Help about the commands that are named; there are no commands of commands. -/
def helpProblem : List String → Problem
  | [] => .helpAsked
  | [name] => if outerGrammar.commands.contains name then .helpAsked else .unknownCommand name
  | name :: further :: _ =>
    .unknownCommand (if outerGrammar.commands.contains name then further else name)

/-- Read the arguments of the program. -/
def read (arguments : List String) : Except Problem Invocation := do
  let (outer, rest) ← takeArguments outerGrammar .initial arguments
  match rest with
  | none => throw (if outer.values.isEmpty then .nothingGiven else .missingCommand)
  | some ("run", rest) => readCommand outer runGrammar rest fun r => .run <$> runOptions r
  | some ("plot", rest) => readCommand outer plotGrammar rest fun r => .plot <$> plotOptions r
  | some ("compare", rest) =>
    readCommand outer compareGrammar rest fun r => .compare <$> compareOptions r
  | some (_, rest) => throw (helpProblem rest)

/-- The number of workers of a campaign: one if it is serial, else the given
number, else the number of processors. -/
def RunOptions.workerCount (options : RunOptions) (processors : Nat) : Nat :=
  if options.serial then 1 else options.workers.getD processors

/-- The campaign that `run` is asked for. -/
def RunOptions.request (options : RunOptions) (deltas : List Float) (defaultDirectory : Path)
    (processors : Nat) : Campaign.Request where
  protocol := options.protocol
  deltas := deltas
  nodes := options.nodes
  endRound := options.endRound
  generationTime := options.generationTime
  outputDirectory := options.outputDirectory.getD defaultDirectory
  workers := options.workerCount processors

end DeltaStudy.CommandLine
