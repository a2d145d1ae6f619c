import DeltaStudy.Campaign.Sweep
import DeltaStudy.Logging.Filter
import DeltaStudy.Program.Machine
import DeltaStudy.Settings.Reader
import DeltaStudy.Study.Analysis

/-!
# Circumstances

What a command finds when it starts: the machine, the variables, and which
events are to be shown. Variables come from the environment and from a settings
file in the working directory or in one of the directories above it; the
environment wins.
-/

namespace DeltaStudy.Program

open DeltaStudy.Settings

/-- What a command finds when it starts. -/
structure Circumstances (m : Type → Type) where
  machine : Machine m
  /-- The values of the variables. -/
  bindings : Bindings
  /-- Which events are shown. -/
  filter : Logging.Filter

/-- The name of a settings file. -/
def settingsName : Path := ⟨".env"⟩

/-- A directory and all directories above it, the nearest one in front. -/
def directoriesFrom (directory : Path) : List Path :=
  let names := directory.components.filterMap fun
    | .name text => some text
    | _ => none
  (List.range (names.length + 1)).map fun count =>
    ⟨"/" ++ Text.joined "/" (names.take (names.length - count))⟩

variable {m : Type → Type} [Monad m]

/-- The content of the settings file in the first of some directories that has
one. -/
def findSettings (storage : Storage m) : List Path → m (List UInt8)
  | [] => return []
  | directory :: rest => do
    let file := directory.join settingsName
    if ← storage.isFile file then
      return ((← storage.read file).toOption).getD []
    else
      findSettings storage rest

/-- The variables of the environment and of the settings file. -/
def Machine.bindings (machine : Machine m) : m Bindings := do
  let directories := directoriesFrom (← machine.workingDirectory)
  let settings ← findSettings machine.storage directories
  return extend (← machine.environment) settings

/-- The variable that asks for a logging filter. -/
def filterVariable : String := "RUST_LOG"

/-- What a command finds that was called with a verbosity. -/
def Circumstances.of (machine : Machine m) (bindings : Bindings) (verbosity : Int) :
    Circumstances m :=
  ⟨machine, bindings, Logging.chosenFilter (valueIn bindings filterVariable) verbosity⟩

namespace Circumstances

variable (circumstances : Circumstances m)

/-- Take notice of an event: show it if the filter does. -/
def note (event : Event) : m Unit :=
  if circumstances.filter.shows event.level then circumstances.machine.tell event else pure ()

/-- The path in a variable, unless it is missing or empty. -/
def pathIn (name default : String) : Path :=
  match valueIn circumstances.bindings name with
  | none | some "" => ⟨default⟩
  | some text => ⟨text⟩

/-- The simulator unless another one is given. -/
def simulator : Path :=
  circumstances.pathIn "DSWEEP_SIMULATOR" "target/release/blockchain-sim"

/-- The directory of artifacts unless another one is given. -/
def dataDirectory : Path :=
  circumstances.pathIn "DSWEEP_DATA_DIR" "data"

/-- Where studies are carried out. -/
def desk : Study.Desk m :=
  ⟨circumstances.machine.storage, circumstances.note⟩

/-- The variables that a simulator finds. -/
def simulatorBindings : Bindings :=
  let fixed := Campaign.simulatorEnvironment
  fixed ++ circumstances.bindings.filter fun entry => (valueIn fixed entry.1).isNone

/-- The launcher's reply for a simulator. -/
def replyFor (simulator : Path) : Except SystemRefusal Script.Finished → Campaign.Reply
  | .ok finished => .ended (finished.status.map Int.ofNat) finished.stdout finished.stderr
  | .error refusal => .refused (.notStarted simulator refusal)

/-- Launch a simulator for a run. -/
def launch (simulator : Path) (run : Campaign.Run) : m Campaign.Reply := do
  circumstances.note .launching
  let result ← circumstances.machine.start simulator circumstances.simulatorBindings run.arguments
  return replyFor simulator result

/-- Where campaigns are carried out with a simulator. -/
def host (simulator : Path) : Campaign.Host m where
  makeDirectory := circumstances.machine.storage.makeDirectory
  launch := circumstances.launch simulator
  note := circumstances.note

end Circumstances

end DeltaStudy.Program
