import DeltaStudy.Artifact.Columns
import DeltaStudy.Artifact.Table
import DeltaStudy.Numeral.Reading

/-!
# Measurements

What an artifact says about the rounds of a run. Every row is judged by itself:
it is valid when the round is a whole number and the other fields are finite
numbers, and a row that is not valid is set aside with its fault. Of several
valid rows for one round the first one in the artifact counts, and the
measurements are then put in the order of the rounds.

An artifact is usable when its header can be read, its columns can be resolved
and at least one row is valid.
-/

namespace DeltaStudy.Artifact

/-- What is known about one round. -/
structure Measurement where
  /-- The number of the round. -/
  round : UInt64
  /-- The mining time in milliseconds. -/
  miningTime : Float
  difficulty : Float
deriving DecidableEq

/-- Why a row is not valid. -/
inductive RowFault where
  /-- The row is not text. -/
  | undecodable
  /-- A field is missing or empty. -/
  | missing (field : Field)
  /-- The round is not a whole number. -/
  | invalidRound (text : String)
  /-- A field is not a finite number. -/
  | invalidValue (field : Field) (text : String)
deriving DecidableEq, Repr

/-- The text of a fault. -/
def RowFault.message : RowFault → String
  | .undecodable => "CSV parse error: the row is not UTF-8"
  | .missing field => "Missing `" ++ field.name ++ "` value."
  | .invalidRound text =>
    "Invalid `round` '" ++ text ++ "' (expected a non-negative integer)."
  | .invalidValue field text =>
    "Invalid `" ++ field.name ++ "` '" ++ text ++ "' (expected a finite number)."

/-- The text in a column of a row. -/
def fieldText (row : List String) (column : Nat) (field : Field) : Except RowFault String :=
  match row[column]? with
  | some text => if text = "" then .error (.missing field) else .ok text
  | none => .error (.missing field)

/-- The largest double up to which a decimal may be a round. -/
def roundLimit : Float :=
  Numeral.ofQuotient false (Numeral.twoTo 64) 1

/-- The round that a decimal denotes: it has to be whole and not negative. The
limit itself is kept as the last round that 64 bits can number. -/
def roundOfFloat? (value : Float) : Option UInt64 :=
  if value.isFinite && value ≥ 0 && Numeral.isWhole value && value ≤ roundLimit then
    some value.toUInt64
  else
    none

/-- Read a round, either as a word or as a decimal. -/
def readRound (text : String) : Except RowFault UInt64 :=
  match Numeral.readWord? text with
  | some round => .ok round
  | none =>
    match (Numeral.readFloat? text).bind roundOfFloat? with
    | some round => .ok round
    | none => .error (.invalidRound text)

/-- Read a finite number. -/
def readValue (field : Field) (text : String) : Except RowFault Float :=
  match Numeral.readFloat? text with
  | some value => if value.isFinite then .ok value else .error (.invalidValue field text)
  | none => .error (.invalidValue field text)

/-- The measurement in a row. The round is judged first, then the difficulty,
then the mining time, which is zero where there is no column for it. -/
def readRow (columns : Columns) (row : List String) : Except RowFault Measurement := do
  let round ← readRound (← fieldText row columns.round .round)
  let difficulty ← readValue .difficulty (← fieldText row columns.difficulty .difficulty)
  let miningTime ← match columns.miningTime with
    | some column => do readValue .miningTime (← fieldText row column .miningTime)
    | none => pure 0
  return { round, miningTime, difficulty }

/-- The measurement in a record. -/
def readRecord (columns : Columns) (record : List (List UInt8)) : Except RowFault Measurement :=
  match textFields? record with
  | some row => readRow columns row
  | none => .error .undecodable

/-- Keep the first measurement of every round. `seen` holds the rounds before. -/
def firstOfRounds (seen : List UInt64) : List Measurement → List Measurement
  | [] => []
  | measurement :: rest =>
    if seen.contains measurement.round then
      firstOfRounds seen rest
    else
      measurement :: firstOfRounds (measurement.round :: seen) rest

/-- Measurements in the order of their rounds, one for each round: the first in
the list. -/
def normalize (measurements : List Measurement) : List Measurement :=
  (firstOfRounds [] measurements).mergeSort fun left right => left.round ≤ right.round

/-- The number of measurements that come after another one of their round. -/
def duplicates (measurements : List Measurement) : Nat :=
  measurements.length - (firstOfRounds [] measurements).length

/-- A row that was set aside. -/
structure RowError where
  /-- The place of the row, counting the header as line 1 and every row as one
  line. -/
  line : Nat
  /-- The text of its fault. -/
  message : String
deriving DecidableEq, Repr

/-- An artifact with its rows judged. -/
structure Scan where
  /-- The columns of the fields. -/
  columns : Columns
  /-- The judgement of every row, in the order of the artifact. -/
  rows : List (Except RowFault Measurement)

namespace Scan

/-- The measurements of the valid rows. -/
def valid (scan : Scan) : List Measurement :=
  scan.rows.filterMap Except.toOption

/-- The rows that were set aside, with their lines. -/
def errors (scan : Scan) : List RowError :=
  scan.rows.zipIdx.filterMap fun (row, index) =>
    match row with
    | .error fault => some ⟨index + 2, fault.message⟩
    | .ok _ => none

/-- What is told about a scan. -/
def events (scan : Scan) : List Event :=
  scan.columns.events ++ (if scan.errors.isEmpty then [] else [.rowsSkipped])

end Scan

/-- Judge the rows of an artifact. An artifact without a header has no columns. -/
def scan (artifact : Path) (bytes : List UInt8) : Except Failure Scan := do
  let all := records bytes
  match textFields? (all.head?.getD []) with
  | none => throw (.unreadableHeader artifact "the header is not UTF-8")
  | some header =>
    let columns ← resolveColumns artifact header
    return { columns, rows := all.tail.map (readRecord columns) }

/-- A usable artifact. -/
structure Measurements where
  /-- Where the artifact is. -/
  artifact : Path
  /-- The measurements, in the order of their rounds. -/
  records : List Measurement
  /-- The columns of the fields. -/
  columns : Columns
  /-- The number of rows after the header. -/
  rowsRead : Nat
  /-- The number of valid rows that another one of their round precedes. -/
  duplicatesDropped : Nat
  /-- The rows that were set aside. -/
  rowErrors : List RowError
deriving DecidableEq

namespace Measurements

/-- Whether the artifact has mining times. -/
def hasMiningTime (measurements : Measurements) : Bool :=
  measurements.columns.miningTime.isSome

/-- The measurements of a scanned artifact. -/
def ofScan (artifact : Path) (scan : Scan) : Except Failure Measurements :=
  if (normalize scan.valid).isEmpty then
    .error (.noUsableRows artifact scan.rows.length scan.errors.length)
  else
    .ok
      { artifact
        records := normalize scan.valid
        columns := scan.columns
        rowsRead := scan.rows.length
        duplicatesDropped := duplicates scan.valid
        rowErrors := scan.errors }

/-- The measurements in the bytes of an artifact. -/
def ofBytes (artifact : Path) (bytes : List UInt8) : Except Failure Measurements := do
  ofScan artifact (← scan artifact bytes)

end Measurements

end DeltaStudy.Artifact
