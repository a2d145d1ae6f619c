import DeltaStudy.Chart.Dashes
import DeltaStudy.Chart.Style
import DeltaStudy.Numeral.Fixed

/-!
# Lines and legend

What is drawn into a chart, still in the units of its axes, and what its legend
says. Series by series, a chart shows the mining-time line if there is anything
in it, the difficulty line, and the reference. Lines and legend are made
separately from the same series.
-/

namespace DeltaStudy.Chart

/-- The pair of axes that a line is drawn against. -/
inductive Frame where
  /-- The axes on the left and at the bottom. -/
  | primary
  /-- The axes on the right and at the bottom. -/
  | secondary
deriving DecidableEq, Repr

/-- A line, which may be drawn in several strands. -/
structure Line where
  /-- How it is drawn. -/
  stroke : Stroke
  /-- The axes it is drawn against. -/
  frame : Frame
  strands : List (List Place)
deriving DecidableEq

/-- A line of the legend: a sample and a text. -/
structure Entry where
  /-- What it says. -/
  text : String
  /-- The stroke of its sample. -/
  stroke : Stroke
  /-- The length of its sample in pixels. -/
  length : Nat
deriving DecidableEq

/-- The form of a chart with given axes. -/
def Axes.form (axes : Axes) : Form :=
  if axes.miningTime.isSome then .dual else .difficultyOnly

/-- The axes that difficulties are drawn against. -/
def Form.difficultyFrame : Form → Frame
  | .dual => .secondary
  | .difficultyOnly => .primary

/-- The series of a chart with their standing. -/
def Content.standings (content : Content) : List (Trend.Series × Standing) :=
  content.series.zipIdx.map fun (series, position) =>
    (series, ⟨content.series.length == 1, position⟩)

/-- The strands of a reference at a height. -/
def referenceStrands (axis : Range) (height : Float) : List (List Place) :=
  (dashes axis).map fun dash => [(dash.start, height), (dash.stop, height)]

/-- The mining-time line of a series, if it has any place. -/
def miningLines (options : Options) (form : Form) (series : Trend.Series) (standing : Standing) :
    List Line :=
  let places := miningLine options series
  if form = .dual ∧ places ≠ [] then [⟨miningStroke standing, .primary, [places]⟩] else []

/-- The lines of one series. -/
def seriesLines (content : Content) (options : Options) (axes : Axes) (series : Trend.Series)
    (standing : Standing) : List Line :=
  let form := axes.form
  miningLines options form series standing
    ++ [⟨difficultyStroke form standing, form.difficultyFrame, [difficultyLine series]⟩]
    ++ (content.referenceValue? options series).toList.map fun height =>
      ⟨referenceStroke form standing, form.difficultyFrame, referenceStrands axes.rounds height⟩

/-- The lines of a chart, in drawing order. -/
def linesOf (content : Content) (options : Options) (axes : Axes) : List Line :=
  content.standings.flatMap fun (series, standing) =>
    seriesLines content options axes series standing

/-- The words in front of the texts of a series where there are two axes. -/
def legendPrefix (series : Trend.Series) (standing : Standing) : String :=
  if standing.single then "" else series.label ++ " "

def referenceText (value : Float) : String :=
  "exp(-Δ/T) = " ++ Numeral.fixed 4 value

/-- The legend of one series where there are two axes. -/
def dualEntries (content : Content) (options : Options) (series : Trend.Series)
    (standing : Standing) : List Entry :=
  let front := legendPrefix series standing
  let mining : Entry :=
    ⟨front ++ "Mining Time (" ++ Numeral.decimalText options.window ++ "-block MA)",
      miningStroke standing, 20⟩
  (if (miningLine options series).isEmpty then [] else [mining])
    ++ [⟨front ++ "Difficulty", difficultyStroke .dual standing, 20⟩]
    ++ (content.referenceValue? options series).toList.map fun value =>
      ⟨front ++ referenceText value, referenceStroke .dual standing, 8⟩

/-- The legend of one series where there are only difficulties. -/
def difficultyEntries (content : Content) (options : Options) (series : Trend.Series)
    (standing : Standing) : List Entry :=
  ⟨series.label, difficultyStroke .difficultyOnly standing, 20⟩
    :: (content.referenceValue? options series).toList.map fun value =>
      ⟨series.label ++ " " ++ referenceText value, referenceStroke .difficultyOnly standing, 8⟩

/-- The legend of a chart. -/
def legendOf (content : Content) (options : Options) (form : Form) : List Entry :=
  content.standings.flatMap fun (series, standing) =>
    match form with
    | .dual => dualEntries content options series standing
    | .difficultyOnly => difficultyEntries content options series standing

end DeltaStudy.Chart
