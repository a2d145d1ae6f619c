import DeltaStudy.Protocol.Table

/-!
# Plans

A campaign asks for one simulator run per Δ/T value. Its plan settles every run
beforehand: the delay, which is the Δ/T value times the generation time with the
fraction cut off, and the artifact that the run writes, whose name holds the
protocol and the shortest text of the value. A campaign that cannot be planned
fails before anything is started.

Two runs with the same artifact are refused by comparing paths, not values.
-/

namespace DeltaStudy.Campaign

/-- What a campaign asks for. -/
structure Request where
  /-- The protocol, as it was typed. -/
  protocol : String
  /-- The Δ/T values, in the order in which they are run. -/
  deltas : List Float
  /-- The number of simulated nodes. -/
  nodes : Nat
  /-- The last simulated round. -/
  endRound : Nat
  /-- A generation time that replaces the one in the protocol table. -/
  generationTime : Option UInt64
  /-- The directory of the artifacts. -/
  outputDirectory : Path
  /-- The number of runs that may be under way at a time. -/
  workers : Nat
deriving DecidableEq

/-- One run of the simulator, with everything settled. -/
structure Run where
  /-- The protocol in its compared form. -/
  protocol : String
  /-- The Δ/T value. -/
  delta : Float
  /-- The delay in the unit of the generation time. -/
  delay : UInt64
  /-- The time between two blocks. -/
  generationTime : UInt64
  /-- The number of simulated nodes. -/
  nodes : Nat
  /-- The last simulated round. -/
  endRound : Nat
  /-- Where the run writes its artifact. -/
  artifact : Path
deriving DecidableEq

/-- The number of delays that 64 bits can hold, as a double. -/
def delayLimit : Float :=
  Numeral.ofQuotient false (Numeral.twoTo 64) 1

/-- The delay of a Δ/T value: the product with the generation time, its fraction
cut off and never rounded. -/
def delayFor (delta : Float) (generationTime : UInt64) : Except Failure UInt64 :=
  if delta.isFinite && delta > 0 then
    let product := delta * generationTime.toFloat
    if !product.isFinite || product ≥ delayLimit then
      .error (.delayTooLarge delta generationTime)
    else
      .ok product.toUInt64
  else
    .error (.invalidDelta delta)

/-- The name of the artifact of a Δ/T value under a protocol in compared form.
Without a protocol the name is that of the value alone. -/
def artifactName (protocol : String) (delta : Float) : String :=
  let stem := Numeral.shortest delta
  if protocol = "" then stem ++ ".csv" else protocol ++ "-" ++ stem ++ ".csv"

/-- The artifact of a Δ/T value under a protocol tag. -/
def artifactPath (directory : Path) (protocol : String) (delta : Float) : Path :=
  directory.join ⟨artifactName (normalizeProtocol protocol) delta⟩

/-- Settle one run per value. `taken` holds the artifacts of the runs before. -/
def planRuns (request : Request) (protocol : String) (generationTime : UInt64) :
    List Path → List Float → Except Failure (List Run)
  | _, [] => .ok []
  | taken, delta :: rest => do
    let delay ← delayFor delta generationTime
    let artifact := artifactPath request.outputDirectory protocol delta
    if taken.any artifact.same then
      throw (.repeatedDelta delta artifact)
    let runs ← planRuns request protocol generationTime (artifact :: taken) rest
    let run : Run :=
      { protocol, delta, delay, generationTime, artifact
        nodes := request.nodes
        endRound := request.endRound }
    return run :: runs

/-- The plan of a campaign: one run per Δ/T value, in the order of the values. -/
def plan (request : Request) (table : ProtocolTable) : Except Failure (List Run) := do
  if request.deltas.isEmpty then
    throw .noDeltas
  if request.nodes = 0 then
    throw .noNodes
  if request.endRound = 0 then
    throw .noRounds
  let protocol := normalizeProtocol request.protocol
  if protocol = "" then
    throw .noProtocol
  let generationTime ← table.resolve protocol request.generationTime
  planRuns request protocol generationTime [] request.deltas

end DeltaStudy.Campaign
