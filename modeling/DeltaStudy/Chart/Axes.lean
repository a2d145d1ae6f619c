import DeltaStudy.Chart.Content

/-!
# Axes

The ranges that a chart shows. The rounds run along the bottom. Difficulties
start at zero. Mining times have an axis of their own, linear or logarithmic, if
there is anything to draw against it; otherwise the difficulties have the only
axis.

A range never has one end only: a range without a width is widened around its
value.
-/

namespace DeltaStudy.Chart

/-- A range of values. -/
structure Range where
  /-- The first value. -/
  start : Float
  /-- The last value. -/
  stop : Float
deriving DecidableEq

def Range.width (range : Range) : Float :=
  range.stop - range.start

/-- The smaller of two numbers. -/
def lesser (left right : Float) : Float :=
  if right < left then right else left

/-- The larger of two numbers; the left one if they do not compare. -/
def greater (left right : Float) : Float :=
  if left < right then right else left

/-- Widen a range to hold a value. -/
def Range.include (range : Range) (value : Float) : Range :=
  ⟨lesser range.start value, greater range.stop value⟩

/-- The range from the least to the greatest finite value. -/
def rangeOf? (values : List Float) : Option Range :=
  match values.filter Float.isFinite with
  | [] => none
  | first :: rest => some (rest.foldl Range.include ⟨first, first⟩)

/-- The distance from one to the next larger double. -/
def epsilon : Float :=
  Float.ofBits 0x3cb0000000000000

/-- A range with a margin on both sides, given as a share of its width. A range
that is too narrow to be told from a point is widened by a tenth of its value,
and by one half at least. -/
def Range.padded (range : Range) (share : Float) : Range :=
  let width := range.width
  if width ≤ epsilon * greater range.stop.abs 1 then
    let half := greater (range.start.abs * 0.1) 0.5
    ⟨range.start - half, range.stop + half⟩
  else
    ⟨range.start - width * share, range.stop + width * share⟩

/-- A place in a chart, in the units of its axes. -/
abbrev Place := Float × Float

/-- A round as a value on the bottom axis. -/
def roundValue (point : Trend.Point) : Float :=
  point.round.toFloat

/-- Where a mining time stands on its axis. A logarithmic axis has no place for
what is not positive. -/
def miningPlace? (logScale : Bool) (seconds : Float) : Option Float :=
  if logScale then
    if seconds > 0 then some (Float.log10 seconds) else none
  else
    some seconds

/-- The places of the averaged mining times of a series. -/
def miningLine (options : Options) (series : Trend.Series) : List Place :=
  if options.miningTime && series.hasMiningTime then
    series.points.filterMap fun point =>
      (miningPlace? options.logScale point.average).map fun height => (roundValue point, height)
  else
    []

/-- Whether some mining times of a series have no place on the axis. -/
def omitsPoints (options : Options) (series : Trend.Series) : Bool :=
  options.miningTime && series.hasMiningTime
    && (miningLine options series).length < series.points.length

/-- The places of the finite difficulties of a series. -/
def difficultyLine (series : Trend.Series) : List Place :=
  (series.points.filter fun point => point.difficulty.isFinite).map fun point =>
    (roundValue point, point.difficulty)

/-- The axes of a chart. -/
structure Axes where
  rounds : Range
  /-- The mining times, by their place on the axis. -/
  miningTime : Option Range
  /-- The difficulties. -/
  difficulty : Range
deriving DecidableEq

/-- The greatest of the finite difficulties and, if they are drawn, of the
references; negative infinity if there is none. -/
def highestDifficulty (content : Content) (options : Options) : Float :=
  let difficulties :=
    (content.series.flatMap fun series => series.points.map Trend.Point.difficulty).filter
      Float.isFinite
  let references :=
    if options.referenceLines then content.references.map Reference.value else []
  (difficulties ++ references).foldl greater (Numeral.ofSteps true Numeral.overflowSteps)

/-- The range of the difficulties: from zero to a little above the greatest. -/
def difficultyRange (highest : Float) : Range :=
  if highest.isFinite && highest > 0 then ⟨0, highest * 1.05⟩ else ⟨0, 1⟩

/-- The axes that a chart needs. A chart without a single point has none. -/
def axesOf (content : Content) (options : Options) : Except Failure Axes :=
  match rangeOf? (content.series.flatMap fun series => series.points.map roundValue) with
  | none => .error .nothingToPlot
  | some rounds =>
    let heights := content.series.flatMap fun series => (miningLine options series).map Prod.snd
    .ok
      { rounds := rounds.padded 0
        miningTime := (rangeOf? heights).map (Range.padded · 0.05)
        difficulty := difficultyRange (highestDifficulty content options) }

end DeltaStudy.Chart
