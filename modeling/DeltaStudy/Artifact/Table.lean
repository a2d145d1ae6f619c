import DeltaStudy.Text.Blank
import DeltaStudy.Text.Utf8

/-!
# Comma-separated tables

An artifact is a table of records. Line feeds and carriage returns end a record,
in any mixture, and empty lines are no records. Commas part the fields. A quote
in front of a field hides commas and line ends until the next single quote; two
quotes inside stand for one, and what follows the closing quote belongs to the
field as it stands. A quote elsewhere is an ordinary byte, and a quote that is
never closed runs to the end.

The reader is a machine that takes one byte at a time, so it accepts every byte
string. Whether the fields are text is asked afterwards, record by record.
-/

namespace DeltaStudy.Artifact

/-- Where the machine stands between two bytes. -/
inductive Place where
  /-- Before a record. -/
  | recordStart
  /-- Before a field that is not the first of its record. -/
  | fieldStart
  /-- In a field, outside quotes. -/
  | plain
  /-- In a field, inside quotes. -/
  | quoted
  /-- After a quote inside quotes. -/
  | quoteSeen
deriving DecidableEq, Repr

/-- The machine that reads a table. Everything it has collected is kept with the
latest part in front. -/
structure TableMachine where
  /-- Where it stands. -/
  place : Place
  /-- The bytes of the field that is being read. -/
  field : List UInt8
  /-- The fields of the record that is being read. -/
  fields : List (List UInt8)
  /-- The records that are complete. -/
  records : List (List (List UInt8))
deriving DecidableEq, Repr

namespace TableMachine

/-- The machine before the first byte. -/
def initial : TableMachine :=
  ⟨.recordStart, [], [], []⟩

/-- Take a byte into the field. -/
def keep (machine : TableMachine) (place : Place) (byte : UInt8) : TableMachine :=
  { machine with place, field := byte :: machine.field }

/-- Complete the field. -/
def endField (machine : TableMachine) : TableMachine :=
  { machine with
    place := .fieldStart
    field := []
    fields := machine.field.reverse :: machine.fields }

/-- Complete the field and the record. -/
def endRecord (machine : TableMachine) : TableMachine :=
  { place := .recordStart
    field := []
    fields := []
    records := (machine.field.reverse :: machine.fields).reverse :: machine.records }

/-- Whether a byte ends a record. -/
def isLineEnd (byte : UInt8) : Bool :=
  byte == 10 || byte == 13

/-- The byte that parts two fields. -/
def comma : UInt8 := 44

/-- The byte that quotes a field. -/
def quote : UInt8 := 34

/-- Take a byte outside quotes. -/
def stepPlain (machine : TableMachine) (byte : UInt8) : TableMachine :=
  if byte == comma then machine.endField
  else if isLineEnd byte then machine.endRecord
  else machine.keep .plain byte

/-- Take a byte. -/
def step (machine : TableMachine) (byte : UInt8) : TableMachine :=
  match machine.place with
  | .recordStart =>
    if isLineEnd byte then machine
    else if byte == quote then { machine with place := .quoted }
    else machine.stepPlain byte
  | .fieldStart =>
    if byte == quote then { machine with place := .quoted } else machine.stepPlain byte
  | .plain => machine.stepPlain byte
  | .quoted =>
    if byte == quote then { machine with place := .quoteSeen } else machine.keep .quoted byte
  | .quoteSeen =>
    if byte == quote then machine.keep .quoted byte else machine.stepPlain byte

/-- Complete what is left at the end of the bytes. -/
def finish (machine : TableMachine) : List (List (List UInt8)) :=
  match machine.place with
  | .recordStart => machine.records.reverse
  | _ => machine.endRecord.records.reverse

end TableMachine

/-- Bytes without the byte order mark in front. -/
def withoutMark : List UInt8 → List UInt8
  | 0xef :: 0xbb :: 0xbf :: rest => rest
  | bytes => bytes

/-- The records of a table, as fields of bytes. -/
def records (bytes : List UInt8) : List (List (List UInt8)) :=
  ((withoutMark bytes).foldl TableMachine.step .initial).finish

/-- The fields of a record as text without the blanks around them, unless one of
them is not text. -/
def textFields? (fields : List (List UInt8)) : Option (List String) :=
  fields.mapM fun field => (Text.decodeUtf8? field).map Text.trim

end DeltaStudy.Artifact
