import DeltaStudy.Numeral.Digits

/-!
# Styles

Colours and strokes. A chart of one series tells mining time and difficulty
apart by colour; a chart of several series gives each series a colour of the
palette, over and over, and tells its lines apart by weight.
-/

namespace DeltaStudy.Chart

/-- A colour by its three parts. -/
structure Colour where
  /-- The red part. -/
  red : UInt8
  /-- The green part. -/
  green : UInt8
  /-- The blue part. -/
  blue : UInt8
deriving DecidableEq, Repr

/-- Ten colours that are easily told apart. -/
def palette : List Colour :=
  [ ⟨31, 119, 180⟩, ⟨255, 127, 14⟩, ⟨44, 160, 44⟩, ⟨214, 39, 40⟩, ⟨148, 103, 189⟩
  , ⟨140, 86, 75⟩, ⟨227, 119, 194⟩, ⟨127, 127, 127⟩, ⟨188, 189, 34⟩, ⟨23, 190, 207⟩ ]

/-- The colour of the mining times of a single series. -/
def singleMiningColour : Colour := ⟨214, 39, 40⟩

/-- The colour of the difficulties of a single series. -/
def singleDifficultyColour : Colour := ⟨31, 119, 180⟩

/-- The colour of a series among several, by its position. -/
def seriesColour (position : Nat) : Colour :=
  palette.getD (position % palette.length) singleDifficultyColour

/-- Two hexadecimal digits in upper case. -/
def hexByte (byte : UInt8) : List Char :=
  [Nat.digitChar (byte.toNat / 16), Nat.digitChar (byte.toNat % 16)].map Char.toUpper

/-- A colour as `#` and six hexadecimal digits. -/
def Colour.code (colour : Colour) : String :=
  String.ofList ('#' :: [colour.red, colour.green, colour.blue].flatMap hexByte)

/-- How a line is drawn. -/
structure Stroke where
  colour : Colour
  /-- The opacity in hundredths. -/
  opacity : Nat
  /-- The width in pixels. -/
  width : Nat
deriving DecidableEq, Repr

/-- The opacity as a decimal without trailing zeros. -/
def Stroke.opacityText (stroke : Stroke) : String :=
  if 100 ≤ stroke.opacity then "1"
  else
    let digits := Numeral.paddedDigits 2 stroke.opacity
    String.ofList ('0' :: '.' :: (digits.reverse.dropWhile (· == '0')).reverse)

/-- Whether a chart has an axis for mining times beside that for difficulties. -/
inductive Form where
  /-- Mining times on the left, difficulties on the right. -/
  | dual
  /-- Difficulties alone. -/
  | difficultyOnly
deriving DecidableEq, Repr

/-- Where a series stands in a chart, as far as its style depends on it. -/
structure Standing where
  /-- Whether it is the only series. -/
  single : Bool
  /-- Its position among the series. -/
  position : Nat
deriving DecidableEq, Repr

/-- The stroke of a mining-time line. -/
def miningStroke (standing : Standing) : Stroke :=
  ⟨if standing.single then singleMiningColour else seriesColour standing.position, 100, 2⟩

/-- The colour of a difficulty line and its reference. -/
def difficultyColour (standing : Standing) : Colour :=
  if standing.single then singleDifficultyColour else seriesColour standing.position

/-- The stroke of a difficulty line. -/
def difficultyStroke (form : Form) (standing : Standing) : Stroke :=
  match form with
  | .dual =>
    if standing.single then ⟨difficultyColour standing, 100, 2⟩
    else ⟨difficultyColour standing, 55, 1⟩
  | .difficultyOnly => ⟨difficultyColour standing, 80, 2⟩

def referenceStroke (form : Form) (standing : Standing) : Stroke :=
  match form with
  | .dual => ⟨difficultyColour standing, 45, 1⟩
  | .difficultyOnly => ⟨difficultyColour standing, 40, 1⟩

end DeltaStudy.Chart
