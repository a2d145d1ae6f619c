import DeltaStudy.Failure
import DeltaStudy.Numeral.Reading
import DeltaStudy.Text.Blank

/-!
# Lists of Δ/T values

A list is written with commas between the values and any blanks around them.
Pieces that are blank throughout count for nothing. The first piece that is not
a float literal makes the whole list malformed.
-/

namespace DeltaStudy.Campaign

/-- The pieces of a list that are not blank, without the blanks around them. -/
def deltaPieces (text : String) : List String :=
  ((Text.splitAt (· == ',') text.toList).map fun piece => String.ofList (Text.trimmed piece)).filter
    fun piece => piece != ""

/-- Read pieces as values, up to the first that is malformed. -/
def readPieces : List String → Except Failure (List Float)
  | [] => .ok []
  | piece :: rest =>
    match Numeral.readFloat? piece with
    | none => .error (.malformedDelta piece)
    | some delta => do
      let deltas ← readPieces rest
      return delta :: deltas

/-- Read a list of Δ/T values. -/
def readDeltas (text : String) : Except Failure (List Float) :=
  readPieces (deltaPieces text)

end DeltaStudy.Campaign
