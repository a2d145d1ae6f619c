import DeltaStudy.Json.Reader
import DeltaStudy.Numeral.Reading
import DeltaStudy.Protocol.Table

/-!
# Protocol tables in JSON

A protocol table is written as a list of rows. A row is an object with the keys
`name` and `generation_time`, each exactly once and among any other keys, or a
list of the two values. The time is a whole number without sign, point or
exponent that fits 64 bits.

What stands under other keys only has to be JSON.
-/

namespace DeltaStudy.ProtocolTable

/-- The time that a value spells: digits alone, below `2^64`. -/
def timeOfValue? : Json.Value → Option UInt64
  | .number spelling =>
    if spelling.all Numeral.isDigit then Numeral.readWord? (String.ofList spelling) else none
  | _ => none

/-- The row that a pair of values spells. -/
def rowOfPair? (name time : Json.Value) : Option ProtocolRow := do
  let name ← name.text?
  let time ← timeOfValue? time
  return ⟨name, time⟩

/-- The members of an object with their keys as text; none if a key is no text. -/
def namedMembers? : List (List Json.StringUnit × Json.Value) → Option (List (String × Json.Value))
  | [] => some []
  | (key, value) :: rest => do
    let key ← Json.textOfUnits? key
    let rest ← namedMembers? rest
    return (String.ofList key, value) :: rest

/-- The only value under a key. -/
def onlyMember? (key : String) (members : List (String × Json.Value)) : Option Json.Value :=
  match members.filter fun member => member.1 == key with
  | [(_, value)] => some value
  | _ => none

/-- The row that a value spells. -/
def rowOfValue? : Json.Value → Option ProtocolRow
  | .array [name, time] => rowOfPair? name time
  | .object members => do
    let members ← namedMembers? members
    let name ← onlyMember? "name" members
    let time ← onlyMember? "generation_time" members
    rowOfPair? name time
  | _ => none

/-- The rows that a value spells, all or none. -/
def rowsOfValue? : Json.Value → Option (List ProtocolRow)
  | .array items => items.mapM rowOfValue?
  | _ => none

/-- Read a protocol table. -/
def ofJson (text : String) : Except Failure ProtocolTable :=
  match Json.read? text with
  | none => .error (.malformedTable "the text is not a JSON value")
  | some value =>
    match rowsOfValue? value with
    | none => .error (.malformedTable "the value is not a list of protocol rows")
    | some rows => ofRows rows

end DeltaStudy.ProtocolTable
