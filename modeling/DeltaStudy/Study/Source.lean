import DeltaStudy.Campaign.Plan

/-!
# Sources

Where the artifact of a series is, what is known of how it was made, and the
name under which the series is shown. The artifact of a Δ/T value is looked for
exactly where a run of that value writes it.
-/

namespace DeltaStudy.Study

/-- An artifact to be studied. -/
structure Source where
  /-- Where the artifact is. -/
  artifact : Path
  /-- The Δ/T value it was made with, if it is known. -/
  delta : Option Float
  /-- The name of its series. -/
  label : String
deriving DecidableEq

/-- An artifact of which nothing is known but where it is. -/
def Source.ofFile (artifact : Path) : Source :=
  ⟨artifact, none, artifact.label⟩

/-- The artifact of a Δ/T value under a protocol. -/
def Source.ofDelta (directory : Path) (protocol : String) (delta : Float) : Source :=
  ⟨Campaign.artifactPath directory protocol delta, some delta, "Δ/T=" ++ Numeral.shortest delta⟩

/-- The artifacts of Δ/T values under a protocol, in the order of the values. -/
def sourcesOfDeltas (directory : Path) (protocol : String) (deltas : List Float) : List Source :=
  deltas.map (Source.ofDelta directory protocol)

/-- Where the chart of one artifact is written unless something else is said. -/
def plotOutput (artifact : Path) : Path :=
  ⟨"plot-mining-" ++ artifact.label ++ ".svg"⟩

/-- Where the chart of a comparison is written unless something else is said. -/
def comparisonOutput (protocol : String) : Path :=
  let tag := normalizeProtocol protocol
  if tag = "" then ⟨"plot.svg"⟩ else ⟨"plot-" ++ tag ++ ".svg"⟩

end DeltaStudy.Study
