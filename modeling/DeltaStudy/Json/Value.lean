/-!
# JSON values

The tree that a JSON text spells. Strings are kept as they were escaped as far as
that matters: an escape may name half of a surrogate pair, and whether the
halves fit together is only asked of strings that somebody reads. Numbers keep
their spelling, since a whole number and a decimal of the same value differ.
-/

namespace DeltaStudy.Json

/-- One unit of a string. -/
inductive StringUnit where
  /-- A character, written plainly or as an escape. -/
  | scalar (character : Char)
  /-- An escape that names half of a surrogate pair. -/
  | surrogate (code : Nat)
deriving DecidableEq, Repr

/-- A JSON value. -/
inductive Value where
  /-- The word `null`. -/
  | null
  /-- The word `true` or `false`. -/
  | boolean (value : Bool)
  /-- A number in its spelling. -/
  | number (spelling : List Char)
  | string (units : List StringUnit)
  /-- A list of values. -/
  | array (items : List Value)
  /-- Named values, in order and with repetitions. -/
  | object (members : List (List StringUnit × Value))

/-- The text that the units of a string spell. A high half has to be followed by
a low half, and a low half has to follow a high one. -/
def textOfUnits? : List StringUnit → Option (List Char)
  | [] => some []
  | .scalar character :: rest => (textOfUnits? rest).map (character :: ·)
  | .surrogate high :: .surrogate low :: rest =>
    if high < 0xdc00 ∧ 0xdc00 ≤ low then
      (textOfUnits? rest).map
        (Char.ofNat (0x10000 + (high - 0xd800) * 0x400 + (low - 0xdc00)) :: ·)
    else
      none
  | .surrogate _ :: _ => none

/-- The text of a value that is a string. -/
def Value.text? : Value → Option String
  | .string units => (textOfUnits? units).map String.ofList
  | _ => none

end DeltaStudy.Json
