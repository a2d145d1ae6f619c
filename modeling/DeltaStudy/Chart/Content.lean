import DeltaStudy.Trend.Series

/-!
# What a chart shows

A chart shows series, and for every distinct Δ/T value among them the value that
the difficulty should approach. Δ/T values are told apart by the comparison of
doubles, so the two zeros count as one and a value that is not a number never
equals another one.
-/

namespace DeltaStudy.Chart

/-- The value that the difficulty approaches for one Δ/T value. -/
structure Reference where
  /-- The Δ/T value. -/
  delta : Float
  /-- The value approached. -/
  value : Float
deriving DecidableEq

/-- The series of a chart and their references. -/
structure Content where
  /-- The series in drawing order. -/
  series : List Trend.Series
  /-- The references in the order in which their Δ/T values first appear. -/
  references : List Reference
deriving DecidableEq

/-- How a chart is drawn. -/
structure Options where
  /-- The window of the moving average, which the legend names. -/
  window : Nat
  /-- Whether mining times are placed by their logarithm. -/
  logScale : Bool
  /-- Where the chart is written. -/
  output : Path
  /-- Whether mining times are drawn at all. -/
  miningTime : Bool
  /-- Whether references are drawn. -/
  referenceLines : Bool
  /-- The text above the chart. -/
  title : String
deriving DecidableEq

/-- Add the reference of a Δ/T value, with the value approached, unless there is one already. -/
def addReference (approached : Float → Float) (references : List Reference) (delta : Float) :
    List Reference :=
  if references.any fun reference => reference.delta == delta then references
  else references ++ [⟨delta, approached delta⟩]

/-- One reference for every distinct Δ/T value of the series, with the values approached. -/
def referencesBy (approached : Float → Float) (series : List Trend.Series) : List Reference :=
  (series.filterMap Trend.Series.delta).foldl (addReference approached) []

/-- One reference for every distinct Δ/T value of the series. -/
def referencesOf : List Trend.Series → List Reference :=
  referencesBy Trend.convergence

/-- The content of a chart of given series, by a given exponential function. -/
def Content.ofSeriesBy (exponential : Float → Float) (series : List Trend.Series) : Content :=
  ⟨series, referencesBy (Trend.convergenceBy exponential) series⟩

/-- The content of a chart of given series. -/
def Content.ofSeries : List Trend.Series → Content :=
  .ofSeriesBy Float.exp

/-- The value of the reference of a series, if references are drawn and the
Δ/T value of the series has one. -/
def Content.referenceValue? (content : Content) (options : Options) (series : Trend.Series) :
    Option Float :=
  if options.referenceLines then
    series.delta.bind fun delta =>
      (content.references.find? fun reference => reference.delta == delta).map Reference.value
  else
    none

/-- Charts are written under names that end in `.svg`. -/
def checkOutput (output : Path) : Except Failure Unit :=
  if output.hasExtension "svg" then .ok () else .error (.notSvg output)

end DeltaStudy.Chart
