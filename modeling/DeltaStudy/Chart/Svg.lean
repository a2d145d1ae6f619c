import DeltaStudy.Chart.Picture
import DeltaStudy.Text.Lines
import DeltaStudy.Text.Markup

/-!
# SVG documents

A picture as an SVG document with one element on every line. A text element has
a class that says what the text is for, so title and legend can be found in a
document again by `textsOf`.

Where texts stand, and how frames and ticks are drawn, is a matter of taste and
nothing depends on it.
-/

namespace DeltaStudy.Chart.Svg

/-- An attribute of an element. -/
def property (name value : String) : String :=
  " " ++ name ++ "=\"" ++ Text.markedUp value ++ "\""

/-- An attribute that holds an integer. -/
def number (name : String) (value : Int) : String :=
  property name (Numeral.signedText value)

/-- An element without content. -/
def element (name attributes : String) : String :=
  "<" ++ name ++ attributes ++ "/>"

inductive TextClass where
  /-- The title of the chart. -/
  | title
  /-- The name of an axis. -/
  | axis
  /-- The value of a tick. -/
  | tick
  /-- A line of the legend. -/
  | legend
deriving DecidableEq, Repr

/-- The name of a class in a document. -/
def TextClass.name : TextClass → String
  | .title => "title"
  | .axis => "axis"
  | .tick => "tick"
  | .legend => "legend"

/-- What a line with a text of a class starts with. -/
def opening (kind : TextClass) : String :=
  "<text" ++ property "class" kind.name

def textLine (kind : TextClass) (x y : Int) (anchor text : String) : String :=
  opening kind ++ number "x" x ++ number "y" y ++ property "text-anchor" anchor ++ ">"
    ++ Text.markedUp text ++ "</text>"

def strokeAttributes (stroke : Stroke) : String :=
  property "stroke" stroke.colour.code ++ property "stroke-opacity" stroke.opacityText
    ++ number "stroke-width" stroke.width

/-- A straight line. -/
def straight (first last : Int × Int) (style : String) : String :=
  element "line"
    (number "x1" first.1 ++ number "y1" first.2 ++ number "x2" last.1 ++ number "y2" last.2 ++ style)

def rectangle (x y width height : Int) (style : String) : String :=
  element "rect"
    (number "x" x ++ number "y" y ++ number "width" width ++ number "height" height ++ style)

/-- The style of frames and ticks. -/
def frameStyle : String :=
  property "fill" "none" ++ property "stroke" "#000000"

/-- A trace as a line through its pixels. -/
def traceLine (trace : Trace) : String :=
  let points := trace.pixels.map fun (x, y) => Numeral.signedText x ++ "," ++ Numeral.signedText y
  element "polyline"
    (property "points" (Text.joined " " points) ++ property "fill" "none"
      ++ strokeAttributes trace.stroke)

def bottomTicks (axis : DrawnAxis) : List String :=
  axis.ticks.flatMap fun tick =>
    [ straight (tick.pixel, bottomEdge) (tick.pixel, bottomEdge + 5) frameStyle
    , textLine .tick tick.pixel (bottomEdge + 18) "middle" tick.text ]

/-- The ticks on a side at a given edge; they point away from the plot. -/
def sideTicks (edge outward : Int) (anchor : String) (axis : DrawnAxis) : List String :=
  axis.ticks.flatMap fun tick =>
    [ straight (edge, tick.pixel) (edge + 5 * outward, tick.pixel) frameStyle
    , textLine .tick (edge + 10 * outward) (tick.pixel + 4) anchor tick.text ]

/-- The axis on the right with its name. -/
def rightAxisLines (picture : Picture) : List String :=
  match picture.rightAxis with
  | none => []
  | some axis =>
    sideTicks picture.right 1 "start" axis
      ++ [textLine .axis (pictureWidth - 10) (topEdge - 10) "end" axis.name]

/-- The left end of the samples in a legend. -/
def legendEdge (picture : Picture) : Int :=
  match picture.corner with
  | .upperLeft => leftEdge + 15
  | .upperRight => picture.right - 320

/-- The legend, one sample and one text for each entry. -/
def legendLines (picture : Picture) : List String :=
  picture.legend.zipIdx.flatMap fun (entry, position) =>
    let x := legendEdge picture
    let y := topEdge + 15 + 16 * position
    [ straight (x, y) (x + entry.length, y) (strokeAttributes entry.stroke)
    , textLine .legend (x + 30) (y + 4) "start" entry.text ]

/-- The name of the vocabulary of SVG documents. -/
def vocabulary : String :=
  Text.joined "/" ["http:", "", "www.w3.org", "2000", "svg"]

/-- The lines of a document. -/
def lines (picture : Picture) : List String :=
  [ "<svg" ++ property "xmlns" vocabulary ++ number "width" pictureWidth
      ++ number "height" pictureHeight ++ property "font-family" "sans-serif"
      ++ property "font-size" "12" ++ ">"
  , rectangle 0 0 pictureWidth pictureHeight (property "fill" "#FFFFFF")
  , textLine .title (pictureWidth / 2) 25 "middle" picture.title
  , rectangle leftEdge topEdge (picture.right - leftEdge) (bottomEdge - topEdge) frameStyle ]
    ++ bottomTicks picture.bottomAxis
    ++ [textLine .axis ((leftEdge + picture.right) / 2) (bottomEdge + 38) "middle"
        picture.bottomAxis.name]
    ++ sideTicks leftEdge (-1) "end" picture.leftAxis
    ++ [textLine .axis 10 (topEdge - 10) "start" picture.leftAxis.name]
    ++ rightAxisLines picture
    ++ picture.traces.map traceLine
    ++ legendLines picture
    ++ ["</svg>"]

/-- The document of a picture. -/
def document (picture : Picture) : String :=
  Text.written (lines picture)

/-- The text in a line of a class, if the line has that class. -/
def textIn? (kind : TextClass) (line : List Char) : Option String :=
  if (opening kind).toList.isPrefixOf line then
    let content := ((line.dropWhile (· != '>')).drop 1).takeWhile (· != '<')
    some (Text.plainText (String.ofList content))
  else
    none

/-- The texts of a class in a document, in their order. -/
def textsOf (kind : TextClass) (document : String) : List String :=
  (Text.splitAt (· == '\n') document.toList).filterMap (textIn? kind)

end DeltaStudy.Chart.Svg
