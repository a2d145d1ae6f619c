import DeltaStudy.Chart.Drawing
import DeltaStudy.Chart.Ticks
import DeltaStudy.Numeral.Whole

/-!
# Pictures

A picture is a chart in pixels: where its lines run, which ticks its axes have
and what is written where. The pixel of a value is found by linear
interpolation between the pixels of the ends of its axis, rounded toward the
first end, and then moved into the box of the plot.
-/

namespace DeltaStudy.Chart

/-- The width of a picture in pixels. -/
def pictureWidth : Nat := 1200

/-- The height of a picture in pixels. -/
def pictureHeight : Nat := 800

/-- The pixels of the two ends of an axis. -/
structure PixelSpan where
  /-- The pixel of the first value. -/
  first : Int
  /-- The pixel of the last value. -/
  last : Int
deriving DecidableEq, Repr

/-- An integer as a double. -/
def intValue (value : Int) : Float :=
  if value < 0 then -(Trend.countValue value.natAbs) else Trend.countValue value.natAbs

/-- How much a pixel may be off before it is rounded. -/
def pixelSlack : Float := 0.001

/-- The pixel of a value on an axis. -/
def PixelSpan.pixel (span : PixelSpan) (range : Range) (value : Float) : Int :=
  if range.start == range.stop then
    (span.last - span.first).tdiv 2
  else
    let share := (value - range.start) / (range.stop - range.start)
    let length := span.last - span.first
    if share.isInf then
      if share > 0 then span.last else span.first
    else if length > 0 then
      span.first + Numeral.floorInt (intValue length * share + pixelSlack)
    else
      span.first + Numeral.ceilInt (intValue length * share - pixelSlack)

/-- Whether a pixel lies between the ends of an axis. -/
def PixelSpan.contains (span : PixelSpan) (pixel : Int) : Bool :=
  decide (min span.first span.last ≤ pixel) && decide (pixel ≤ max span.first span.last)

/-- The left edge of the plot. -/
def leftEdge : Int := 80

/-- The upper edge of the plot. -/
def topEdge : Int := 37

/-- The lower edge of the plot. -/
def bottomEdge : Int := 750

/-- The right edge of the plot, which leaves room for a second axis. -/
def rightEdge : Form → Int
  | .dual => 1120
  | .difficultyOnly => 1190

/-- The pixels of the bottom axis, as a pair of axes counts them. -/
def bottomSpan (form : Form) : Frame → PixelSpan
  | .primary => ⟨leftEdge, rightEdge form - 1⟩
  | .secondary => ⟨leftEdge, rightEdge form⟩

/-- The pixels of a vertical axis. -/
def sideSpan : Frame → PixelSpan
  | .primary => ⟨bottomEdge - 1, topEdge⟩
  | .secondary => ⟨bottomEdge, topEdge⟩

/-- The range of the vertical axis of a pair of axes. -/
def Axes.sideRange (axes : Axes) : Frame → Range
  | .primary => axes.miningTime.getD axes.difficulty
  | .secondary => axes.difficulty

/-- A pixel moved between two edges. -/
def clamp (low high pixel : Int) : Int :=
  max low (min high pixel)

/-- The pixel of a place in the plot. -/
def pixelOf (axes : Axes) (frame : Frame) (place : Place) : Int × Int :=
  let form := axes.form
  ( clamp leftEdge (rightEdge form) ((bottomSpan form frame).pixel axes.rounds place.1)
  , clamp topEdge bottomEdge ((sideSpan frame).pixel (axes.sideRange frame) place.2) )

/-- A line in pixels. -/
structure Trace where
  /-- How it is drawn. -/
  stroke : Stroke
  /-- The pixels it connects. -/
  pixels : List (Int × Int)
deriving DecidableEq

/-- The traces of a line: one for each strand that has a place. -/
def Line.traces (line : Line) (axes : Axes) : List Trace :=
  (line.strands.filter fun strand => !strand.isEmpty).map fun strand =>
    ⟨line.stroke, strand.map (pixelOf axes line.frame)⟩

/-- A tick of an axis. -/
structure Tick where
  /-- Its pixel along the axis. -/
  pixel : Int
  text : String
deriving DecidableEq

/-- The ticks of an axis that lie on it. -/
def ticksOf (span : PixelSpan) (range : Range) (text : Float → String) : List Tick :=
  ((tickValues range).map fun value => (⟨span.pixel range value, text value⟩ : Tick)).filter
    fun tick => span.contains tick.pixel

/-- An axis as it is drawn: its name and its ticks. -/
structure DrawnAxis where
  /-- What the axis shows. -/
  name : String
  ticks : List Tick
deriving DecidableEq

/-- The corner of the plot that holds the legend. -/
inductive Corner where
  /-- The upper left corner. -/
  | upperLeft
  /-- The upper right corner. -/
  | upperRight
deriving DecidableEq, Repr

/-- The corner of the legend: where lines rarely run. -/
def Form.corner : Form → Corner
  | .dual => .upperLeft
  | .difficultyOnly => .upperRight

/-- A chart in pixels. -/
structure Picture where
  /-- The text above the chart. -/
  title : String
  /-- The right edge of the plot. -/
  right : Int
  bottomAxis : DrawnAxis
  leftAxis : DrawnAxis
  /-- The axis on the right, if there is one. -/
  rightAxis : Option DrawnAxis
  /-- The lines in drawing order. -/
  traces : List Trace
  /-- The corner of the legend. -/
  corner : Corner
  legend : List Entry
deriving DecidableEq

/-- The name of the axis of mining times. -/
def miningAxisName (logScale : Bool) : String :=
  if logScale then "Mining Time (sec) - Log Scale" else "Mining Time (sec)"

/-- The picture of a chart with given axes. -/
def pictureOf (content : Content) (options : Options) (axes : Axes) : Picture :=
  let form := axes.form
  let difficultyAxis : DrawnAxis :=
    ⟨"Difficulty", ticksOf (sideSpan form.difficultyFrame) axes.difficulty valueText⟩
  { title := options.title
    right := rightEdge form
    bottomAxis := ⟨"Round", ticksOf (bottomSpan form .primary) axes.rounds roundText⟩
    leftAxis := match axes.miningTime with
      | some range =>
        ⟨miningAxisName options.logScale,
          ticksOf (sideSpan .primary) range (miningText options.logScale)⟩
      | none => difficultyAxis
    rightAxis := if axes.miningTime.isSome then some difficultyAxis else none
    traces := (linesOf content options axes).flatMap fun line => line.traces axes
    corner := form.corner
    legend := legendOf content options form }

/-- Draw a chart. -/
def draw (content : Content) (options : Options) : Except Failure Picture :=
  (axesOf content options).map (pictureOf content options)

end DeltaStudy.Chart
