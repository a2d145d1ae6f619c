import DeltaStudy.Failure
import DeltaStudy.Text.Blank

/-!
# Protocol tables

A protocol table gives the expected time between two blocks for each protocol it
knows. Protocol tags are compared without the blanks around them and without
regard to the case of ASCII letters.

A table keeps its rows in order. Look-up takes the first row of a name, and
merging a table into another one replaces the time in the first row of a name
and appends the names that are new.
-/

namespace DeltaStudy

/-- One protocol and the expected time between its blocks in milliseconds. -/
structure ProtocolRow where
  /-- The protocol tag. -/
  name : String
  /-- The time between two blocks in milliseconds. -/
  generationTime : UInt64
deriving DecidableEq, Repr

/-- The form in which protocol tags are compared. -/
def normalizeProtocol (tag : String) : String :=
  Text.lowercase (Text.trim tag)

/-- The rows of a protocol table, in order. -/
structure ProtocolTable where
  rows : List ProtocolRow
deriving DecidableEq, Repr

namespace ProtocolTable

/-- The protocols that are known without a table of one's own. -/
def builtin : ProtocolTable :=
  ⟨[⟨"bitcoin", 600000⟩, ⟨"ethereum", 15000⟩]⟩

/-- The names in the table, in order and with repetitions. -/
def names (table : ProtocolTable) : List String :=
  table.rows.map ProtocolRow.name

/-- Put one row into a list of rows, in place of the first one of its name. -/
def placeRow (row : ProtocolRow) : List ProtocolRow → List ProtocolRow
  | [] => [row]
  | first :: rest =>
    if first.name = row.name then
      { first with generationTime := row.generationTime } :: rest
    else
      first :: placeRow row rest

/-- Merge another table into this one, row after row. -/
def extend (table other : ProtocolTable) : ProtocolTable :=
  ⟨other.rows.foldl (fun rows row => placeRow row rows) table.rows⟩

/-- The time that the table gives for a protocol tag. -/
def generationTime? (table : ProtocolTable) (protocol : String) : Option UInt64 :=
  (table.rows.find? fun row => row.name == normalizeProtocol protocol).map
    ProtocolRow.generationTime

/-- The time to use for a protocol tag. A time that was asked for wins over the
table, whether or not the table knows the protocol. -/
def resolve (table : ProtocolTable) (protocol : String) (override : Option UInt64) :
    Except Failure UInt64 :=
  match override with
  | some time => if time = 0 then .error .zeroOverride else .ok time
  | none =>
    match table.generationTime? protocol with
    | some time => .ok time
    | none => .error (.unknownProtocol protocol table.names)

/-- Reject the first row that has no name or no time. -/
def checkRows : List ProtocolRow → Except Failure Unit
  | [] => .ok ()
  | row :: rest =>
    if Text.trim row.name = "" then .error .unnamedProtocol
    else if row.generationTime = 0 then .error (.zeroGenerationTime row.name)
    else checkRows rest

/-- The table of given rows, once every row has a name and a time. Repeated
names are kept. -/
def ofRows (rows : List ProtocolRow) : Except Failure ProtocolTable := do
  checkRows rows
  return ⟨rows.map fun row => { row with name := normalizeProtocol row.name }⟩

end ProtocolTable

end DeltaStudy
