import DeltaStudy.Failure
import DeltaStudy.Event
import DeltaStudy.Text.Blank

/-!
# Columns

Which column of an artifact feeds which field. A column is found by the name in
the header, and of several columns with one name the last one counts. If the
round or the difficulty has no named column, the columns that are left fill the
gaps by position; only then may an unnamed column be taken for mining times.

Named columns are never given away, and no column feeds two fields.
-/

namespace DeltaStudy.Artifact

/-- The columns that feed the fields. -/
structure Columns where
  /-- The column of the rounds. -/
  round : Nat
  /-- The column of the mining times, if there is one. -/
  miningTime : Option Nat
  /-- The column of the difficulties. -/
  difficulty : Nat
  /-- Whether positions had to fill a gap. -/
  positional : Bool
deriving DecidableEq, Repr

/-- The form in which header names are compared: without blanks around them,
then without byte order marks in front, then in lower case. -/
def normalizeName (name : String) : String :=
  String.ofList
    (((Text.trimmed name.toList).dropWhile (·.toNat == 0xfeff)).map Char.toLower)

/-- The last column with the name of a field. -/
def namedColumn? (header : List String) (field : Field) : Option Nat :=
  ((header.zipIdx.filter fun (name, _) => normalizeName name == field.name).map Prod.snd).getLast?

/-- The preferred column if it exists and is free, else the first free one. -/
def freeColumn? (count : Nat) (taken : List Nat) (preferred : Nat) : Option Nat :=
  if preferred < count && !taken.contains preferred then
    some preferred
  else
    (List.range count).find? fun column => !taken.contains column

/-- The column for a field that needs one: the named one, or else a free one. -/
def requiredColumn (artifact : Path) (count : Nat) (taken : List Nat) (preferred : Nat)
    (field : Field) : Option Nat → Except Failure Nat
  | some column => .ok column
  | none =>
    match freeColumn? count taken preferred with
    | some column => .ok column
    | none => .error (.noColumnLeft artifact field)

/-- The columns of an artifact with a given header. -/
def resolveColumns (artifact : Path) (header : List String) : Except Failure Columns := do
  let namedRound := namedColumn? header .round
  let namedDifficulty := namedColumn? header .difficulty
  let namedMiningTime := namedColumn? header .miningTime
  let positional := namedRound.isNone || namedDifficulty.isNone
  if positional && header.length < 2 then
    throw (.tooFewColumns artifact header.length)
  let named := [namedRound, namedDifficulty, namedMiningTime].filterMap id
  let round ← requiredColumn artifact header.length named 0 .round namedRound
  let difficulty ←
    requiredColumn artifact header.length (round :: named) 1 .difficulty namedDifficulty
  let miningTime := match namedMiningTime with
    | some column => some column
    | none =>
      if positional then freeColumn? header.length (difficulty :: round :: named) 2 else none
  return { round, miningTime, difficulty, positional }

/-- What is told about the columns of an artifact. -/
def Columns.events (columns : Columns) : List Event :=
  (if columns.positional then [.positionalColumns] else [])
    ++ (if columns.miningTime.isNone then [.noMiningTime] else [])

end DeltaStudy.Artifact
