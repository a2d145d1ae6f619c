import DeltaStudy.Numeral.Shortest
import DeltaStudy.Path
import DeltaStudy.Text.Quoted

/-!
# Failures

Everything that can go wrong in a study, as causes. A cause decides its kind,
which decides the exit code of the program, and its message; no text is chosen
anywhere else. Failures of a collaborator, such as a launcher or a store that is
not ours, are passed on as they were reported.
-/

namespace DeltaStudy

/-- The classes of failure. Only a configuration failure stops a whole campaign;
the others are contained to one run or one artifact. -/
inductive FailureKind where
  /-- The request was wrong before anything ran. -/
  | configuration
  /-- The simulator could not be started. -/
  | runInvocation
  /-- The simulator ended without success. -/
  | runFailure
  /-- An artifact is unreadable or has no usable rows. -/
  | dataFormat
  /-- An artifact is not there. -/
  | missingArtifact
  /-- A chart could not be drawn or written. -/
  | render
deriving DecidableEq, Repr

namespace FailureKind

/-- The exit code of the program for a kind of failure. -/
def exitCode : FailureKind → Nat
  | .configuration => 2
  | .runInvocation => 3
  | .runFailure => 3
  | .dataFormat => 4
  | .missingArtifact => 4
  | .render => 5

/-- The name of a kind of failure. -/
def name : FailureKind → String
  | .configuration => "Configuration"
  | .runInvocation => "RunInvocation"
  | .runFailure => "RunFailure"
  | .dataFormat => "DataFormat"
  | .missingArtifact => "MissingArtifact"
  | .render => "Render"

end FailureKind

/-- Why the operating system refuses a request for a file. -/
inductive SystemRefusal where
  /-- A name does not exist. -/
  | notFound
  /-- A file may be executed but is no program. -/
  | notProgram
  /-- A file may not be executed. -/
  | permissionDenied
  /-- A file stands where a directory should be made. -/
  | alreadyExists
  /-- A file stands where a directory should be entered. -/
  | notDirectory
  /-- A directory stands where a file should be. -/
  | isDirectory
  /-- Any other reason, in the words and with the number of the system. -/
  | other (number : Nat) (description : String)
deriving DecidableEq, Repr

/-- The text of a refusal, with the number that the system gives it. -/
def SystemRefusal.text : SystemRefusal → String
  | .notFound => "No such file or directory (os error 2)"
  | .notProgram => "Exec format error (os error 8)"
  | .permissionDenied => "Permission denied (os error 13)"
  | .alreadyExists => "File exists (os error 17)"
  | .notDirectory => "Not a directory (os error 20)"
  | .isDirectory => "Is a directory (os error 21)"
  | .other number description =>
    description ++ " (os error " ++ Numeral.decimalText number ++ ")"

/-- The fields that an artifact's columns feed. -/
inductive Field where
  /-- The number of the round. -/
  | round
  /-- The mining time in milliseconds. -/
  | miningTime
  | difficulty
deriving DecidableEq, Repr

/-- The name of a field in a header. -/
def Field.name : Field → String
  | .round => "round"
  | .miningTime => "mining_time"
  | .difficulty => "difficulty"

/-- A cause of failure. -/
inductive Failure where
  /-- A piece of a list of Δ/T values is not a number. -/
  | malformedDelta (piece : String)
  /-- A Δ/T value is not finite and positive. -/
  | invalidDelta (delta : Float)
  /-- The delay of a Δ/T value does not fit 64 bits. -/
  | delayTooLarge (delta : Float) (generationTime : UInt64)
  /-- Two Δ/T values have the same artifact. -/
  | repeatedDelta (delta : Float) (artifact : Path)
  /-- A campaign without a Δ/T value. -/
  | noDeltas
  /-- A campaign without nodes. -/
  | noNodes
  /-- A campaign without rounds. -/
  | noRounds
  /-- A campaign without workers. -/
  | noWorkers
  /-- A campaign without a protocol. -/
  | noProtocol
  /-- A generation time of zero was asked for. -/
  | zeroOverride
  /-- The protocol is not in the table. -/
  | unknownProtocol (protocol : String) (known : List String)
  /-- The text of a protocol table is not one. -/
  | malformedTable (detail : String)
  /-- A row of a protocol table has no name. -/
  | unnamedProtocol
  /-- A row of a protocol table has generation time zero. -/
  | zeroGenerationTime (protocol : String)
  /-- The file of a protocol table cannot be read. -/
  | unreadableTable (reason : String)
  /-- The file of a protocol table is not text. -/
  | tableNotText (table : Path) (detail : String)
  /-- A moving average over no values was asked for. -/
  | zeroWindow
  /-- A chart would be written under a name without the extension. -/
  | notSvg (output : Path)
  /-- The simulator could not be started. -/
  | notStarted (simulator : Path) (reason : SystemRefusal)
  /-- The simulator ended without success. -/
  | runFailed (delta : Float) (status : Option Int) (complaint : String)
  /-- The launcher broke down. -/
  | launcherBroke (delta : Float) (detail : String)
  /-- Some runs of a campaign failed. -/
  | runsFailed (failed total : Nat)
  /-- An artifact is not there. -/
  | artifactNotFound (artifact : Path)
  /-- An artifact cannot be read. -/
  | unreadableArtifact (artifact : Path) (reason : SystemRefusal)
  /-- A directory cannot be listed. -/
  | unlistedDirectory (directory : Path) (reason : SystemRefusal)
  /-- A file cannot be written. -/
  | unwrittenFile (file : Path) (reason : SystemRefusal)
  /-- A directory cannot be made. -/
  | unmadeDirectory (directory : Path) (reason : SystemRefusal)
  /-- The header of an artifact is not text. -/
  | unreadableHeader (artifact : Path) (detail : String)
  /-- An artifact has too few columns. -/
  | tooFewColumns (artifact : Path) (columns : Nat)
  /-- No column of an artifact is left for a field. -/
  | noColumnLeft (artifact : Path) (field : Field)
  /-- No row of an artifact is valid. -/
  | noUsableRows (artifact : Path) (read invalid : Nat)
  /-- None of the artifacts to compare is usable. -/
  | nothingToCompare (requested skipped : Nat)
  /-- None of the series to chart has a point. -/
  | nothingToPlot
  /-- A failure in the words of a collaborator. -/
  | reported (kind : FailureKind) (message : String)
deriving DecidableEq

namespace Failure

/-- The kind of a cause. -/
def kind : Failure → FailureKind
  | malformedDelta _ | invalidDelta _ | delayTooLarge _ _ | repeatedDelta _ _ | noDeltas | noNodes
  | noRounds | noWorkers | noProtocol | zeroOverride | unknownProtocol _ _ | malformedTable _
  | unnamedProtocol | zeroGenerationTime _ | unreadableTable _ | tableNotText _ _ | zeroWindow
  | notSvg _ | unmadeDirectory _ _ => .configuration
  | notStarted _ _ | launcherBroke _ _ => .runInvocation
  | runFailed _ _ _ | runsFailed _ _ => .runFailure
  | unreadableArtifact _ _ | unreadableHeader _ _ | tooFewColumns _ _ | noColumnLeft _ _
  | noUsableRows _ _ _ | nothingToCompare _ _ => .dataFormat
  | artifactNotFound _ | unlistedDirectory _ _ => .missingArtifact
  | unwrittenFile _ _ | nothingToPlot => .render
  | reported kind _ => kind

/-- The exit code of the program for a cause. -/
def exitCode (failure : Failure) : Nat :=
  failure.kind.exitCode

/-- How a run ended, in words. -/
def statusText : Option Int → String
  | some code => "exit code " ++ Numeral.signedText code
  | none => "terminated by signal"

/-- The message of a cause. -/
def message : Failure → String
  | malformedDelta piece => "Invalid Δ/T value '" ++ piece ++ "': invalid float literal"
  | invalidDelta delta =>
    "Invalid Δ/T value " ++ Numeral.shortest delta ++ " (must be finite and > 0)."
  | delayTooLarge delta generationTime =>
    "Δ/T " ++ Numeral.shortest delta ++ " × generation time "
      ++ Numeral.decimalText generationTime.toNat ++ " does not fit a delay."
  | repeatedDelta delta artifact =>
    "Duplicate Δ/T value " ++ Numeral.shortest delta ++ ": output '" ++ artifact.text
      ++ "' would be written twice."
  | noDeltas => "At least one Δ/T value is required."
  | noNodes => "`--num-nodes` must be > 0."
  | noRounds => "`--end-round` must be > 0."
  | noWorkers => "`--max-workers` must be >= 1."
  | noProtocol => "`--protocol` must not be empty."
  | zeroOverride => "`--generation-time` must be > 0."
  | unknownProtocol protocol known =>
    "Unknown protocol `" ++ protocol ++ "` and no `--generation-time` override. Known protocols: "
      ++ Text.joined ", " known ++ "."
  | malformedTable detail => "Invalid protocol table JSON: " ++ detail
  | unnamedProtocol => "Protocol table row has an empty `name`."
  | zeroGenerationTime protocol =>
    "Protocol `" ++ protocol ++ "` has generation_time 0 (must be > 0)."
  | unreadableTable reason => "Failed to read protocol table: " ++ reason
  | tableNotText table detail =>
    "Protocol table '" ++ table.text ++ "' is not UTF-8: " ++ detail
  | zeroWindow => "Moving-average window must be >= 1."
  | notSvg output => "Chart output '" ++ output.text ++ "' must end in `.svg`."
  | notStarted simulator reason =>
    "Failed to run simulator '" ++ simulator.text ++ "': " ++ reason.text
  | runFailed delta status complaint =>
    "Simulator failed for Δ/T=" ++ Numeral.shortest delta ++ " (" ++ statusText status ++ "): "
      ++ complaint
  | launcherBroke delta detail =>
    "Launcher panicked for Δ/T=" ++ Numeral.shortest delta ++ ": " ++ detail
  | runsFailed failed total =>
    Numeral.decimalText failed ++ " of " ++ Numeral.decimalText total ++ " runs failed."
  | artifactNotFound artifact => "Artifact '" ++ artifact.text ++ "' not found."
  | unreadableArtifact artifact reason =>
    "Failed to read '" ++ artifact.text ++ "': " ++ reason.text
  | unlistedDirectory directory reason =>
    "Failed to list '" ++ directory.text ++ "': " ++ reason.text
  | unwrittenFile file reason => "Failed to write '" ++ file.text ++ "': " ++ reason.text
  | unmadeDirectory directory reason =>
    "Failed to create directory '" ++ directory.text ++ "': " ++ reason.text
  | unreadableHeader artifact detail =>
    "Failed to read CSV headers of '" ++ artifact.text ++ "': " ++ detail
  | tooFewColumns artifact columns =>
    "'" ++ artifact.text ++ "' has " ++ Numeral.decimalText columns
      ++ " column(s); at least `round` and `difficulty` are required."
  | noColumnLeft artifact field =>
    "'" ++ artifact.text ++ "' has no column left for `" ++ field.name ++ "`."
  | noUsableRows artifact read invalid =>
    "No usable rows in '" ++ artifact.text ++ "' (" ++ Numeral.decimalText read ++ " read, "
      ++ Numeral.decimalText invalid ++ " invalid)."
  | nothingToCompare requested skipped =>
    "No usable artifacts to compare (" ++ Numeral.decimalText requested ++ " requested, "
      ++ Numeral.decimalText skipped ++ " skipped)."
  | nothingToPlot => "Nothing to plot: every series is empty."
  | reported _ message => message

/-- A failure with all its parts, for somebody who looks for a fault. -/
def description (failure : Failure) : String :=
  "AppError \x7b kind: " ++ failure.kind.name ++ ", exit_code: "
    ++ Numeral.decimalText failure.exitCode ++ ", message: " ++ Text.quoted failure.message
    ++ " \x7d"

end Failure

end DeltaStudy
