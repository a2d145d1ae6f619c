import DeltaStudy.Proofs.Campaign.Planning
import DeltaStudy.Proofs.Numeral.Positive
import DeltaStudy.Proofs.Numeral.Shortest
import DeltaStudy.Proofs.Paths
import DeltaStudy.Proofs.Protocol.Names

/-!
# Which requests are planned

Two positive Δ/T values have the same artifact exactly if they are the same, whatever
the directory and the protocol are, because the text of a value can be read back and
cannot be taken for anything but the end of a file name. So comparing paths refuses
exactly the repeated values, and a request can be judged by its values alone.
-/

namespace DeltaStudy.Campaign

open Numeral

/-! ## Artifacts -/

/-- What the name of an artifact ends with is digits and points and the extension. -/
theorem of_mem_ending {delta : Float} (positive : Positive delta) {character : Char}
    (member : character ∈ (shortest delta ++ ".csv").toList) :
    isDigit character = true ∨ character ∈ ['.', 'c', 's', 'v'] := by
  obtain ⟨upright, steps, sized⟩ := positive.size_eq
  rw [String.toList_append, List.mem_append] at member
  rcases member with inText | inSuffix
  · exact (isDigit_or_point_of_mem_shortest sized upright inText).imp_right fun point => by
      simp [point]
  · exact .inr inSuffix

/-- The text of a positive value ends the name of an artifact. -/
theorem ending_shortest {delta : Float} (positive : Positive delta) :
    Path.Ending (shortest delta ++ ".csv") := by
  constructor
  · rintro character member rfl
    rcases of_mem_ending positive member with digit | inSuffix
    · cases digit
    · simp at inSuffix
  · exact ⟨(shortest delta).toList ++ ['.', 'c', 's'], 'v', by simp, by decide⟩

/-- Positive values have the same text exactly if they are the same. -/
theorem ending_shortest_inj {left right : Float} (leftPositive : Positive left)
    (rightPositive : Positive right) :
    shortest left ++ ".csv" = shortest right ++ ".csv" ↔ left = right := by
  obtain ⟨-, leftSteps, leftSized⟩ := leftPositive.size_eq
  obtain ⟨-, rightSteps, rightSized⟩ := rightPositive.size_eq
  constructor
  · intro same
    exact shortest_injective (by simp [leftSized]) (by simp [rightSized])
      (String.append_left_inj ".csv" |>.mp same)
  · rintro rfl
    rfl

/-- Artifacts of one directory and protocol have everything in common but the text of
the value. -/
theorem exists_front_artifactPath (directory : Path) (protocol : String) :
    ∃ front, ∀ delta, Positive delta →
      artifactPath directory protocol delta = ⟨front ++ (shortest delta ++ ".csv")⟩ := by
  by_cases untagged : normalizeProtocol protocol = ""
  · refine ⟨(directory.join ⟨""⟩).text, fun delta positive => ?_⟩
    rw [← Path.join_append directory "" (ending_shortest positive), artifactPath, artifactName,
      if_pos untagged, String.empty_append]
  · refine ⟨(directory.join ⟨normalizeProtocol protocol ++ "-"⟩).text, fun delta positive => ?_⟩
    rw [← Path.join_append directory _ (ending_shortest positive), artifactPath, artifactName,
      if_neg untagged, String.append_assoc]

/-- Positive values have the same artifact exactly if they are the same. -/
theorem same_artifactPath_iff {directory : Path} {protocol : String} {left right : Float}
    (leftPositive : Positive left) (rightPositive : Positive right) :
    (artifactPath directory protocol left).same (artifactPath directory protocol right) = true
      ↔ left = right := by
  obtain ⟨front, spelled⟩ := exists_front_artifactPath directory protocol
  rw [spelled left leftPositive, spelled right rightPositive,
    Path.same_append_iff (ending_shortest leftPositive) (ending_shortest rightPositive),
    ending_shortest_inj leftPositive rightPositive]

/-! ## Delays -/

theorem delayLimit_eq : delayLimit = 18446744073709551616 := by
  decide +kernel

/-- A value has a delay exactly if it is finite and positive and its product with the
generation time is below the limit. -/
theorem delayFor_ok_iff {delta : Float} {generationTime : UInt64} :
    (∃ delay, delayFor delta generationTime = .ok delay) ↔
      delta.isFinite = true ∧ 0 < delta
        ∧ delta * generationTime.toFloat < 18446744073709551616 := by
  have limitPositive : Positive delayLimit := by
    rw [positive_iff]
    decide +kernel
  rw [← delayLimit_eq, ← and_assoc, ← positive_iff, delayFor]
  by_cases positive : Positive delta
  · have accepted : (delta.isFinite && decide (delta > 0)) = true := by
      simpa using (positive_iff delta).mp positive
    have bounded := limitPositive.lt_iff (positive.upright_mul generationTime)
    rw [if_pos accepted]
    by_cases small : delta * generationTime.toFloat < delayLimit
    · obtain ⟨finite, below⟩ := bounded.mp small
      rw [if_neg (by simp [finite, below])]
      exact iff_of_true ⟨_, rfl⟩ ⟨positive, small⟩
    · have refused : (!(delta * generationTime.toFloat).isFinite
          || decide (delta * generationTime.toFloat ≥ delayLimit)) = true := by
        simpa [bounded, ← Bool.not_eq_true, imp_iff_not_or] using small
      rw [if_pos refused]
      simp [small]
  · have refused : ¬ (delta.isFinite && decide (delta > 0)) = true := by
      simpa [positive_iff] using positive
    rw [if_neg refused]
    simp [positive]

/-! ## Plans -/

/-- Values that have delays can be settled exactly if they are pairwise different. -/
theorem planRuns_ok_iff_distinct {request : Request} {protocol : String}
    {generationTime : UInt64} {deltas : List Float} {runs : List Run} :
    planRuns request protocol generationTime [] deltas = .ok runs ↔
      (∀ delta ∈ deltas, delta.isFinite = true ∧ 0 < delta
        ∧ delta * generationTime.toFloat < 18446744073709551616)
      ∧ deltas.Pairwise (fun earlier later => (earlier == later) = false)
      ∧ runs = deltas.map (request.settle protocol generationTime) := by
  rw [planRuns_ok_iff]
  simp only [delayFor_ok_iff, List.not_mem_nil, false_imp_iff, implies_true, true_and]
  refine and_congr_right fun fitting => and_congr_left' ?_
  have positive {delta : Float} (member : delta ∈ deltas) : Positive delta :=
    (positive_iff delta).mpr ⟨(fitting delta member).1, (fitting delta member).2.1⟩
  refine List.Pairwise.iff_of_mem fun earlierMember laterMember => ?_
  rw [← Bool.not_eq_true, ← Bool.not_eq_true,
    same_artifactPath_iff (positive laterMember) (positive earlierMember),
    (positive earlierMember).beq_iff, eq_comm]

/-- What a request has to be to be planned with a generation time. -/
structure Request.Acceptable (request : Request) (table : ProtocolTable)
    (generationTime : UInt64) : Prop where
  /-- It asks for at least one run. -/
  deltas : request.deltas ≠ []
  /-- It asks for at least one node. -/
  nodes : 0 < request.nodes
  /-- It asks for at least one round. -/
  endRound : 0 < request.endRound
  /-- There is more to its protocol than blanks. -/
  protocol : Text.trim request.protocol ≠ ""
  /-- The generation time is the one asked for, which is not zero, or else the one in
  the first row of the table that has the name of the protocol. -/
  resolves :
    (request.generationTime = some generationTime ∧ 0 < generationTime)
    ∨ (request.generationTime = none
        ∧ ∃ row, table.rows.find? (·.name == normalizeProtocol request.protocol) = some row
          ∧ row.generationTime = generationTime)
  /-- Every value is a finite positive double whose product with the generation time
  is below `2^64`. -/
  delays : ∀ delta ∈ request.deltas, delta.isFinite = true ∧ 0 < delta
    ∧ delta * generationTime.toFloat < 18446744073709551616
  /-- No two values are equal doubles. -/
  distinct : request.deltas.Pairwise fun earlier later => (earlier == later) = false

/-- What the runs of a planned request carry. -/
structure Request.Settled (request : Request) (generationTime : UInt64)
    (runs : List Run) : Prop where
  /-- There is one run per value, in the order of the values. -/
  deltas_eq : runs.map Run.delta = request.deltas
  /-- Every run has the protocol in its compared form. -/
  protocol_eq : ∀ run ∈ runs, run.protocol = normalizeProtocol request.protocol
  /-- Every run has the generation time. -/
  generationTime_eq : ∀ run ∈ runs, run.generationTime = generationTime
  /-- Every run has the delay of its value. -/
  delayFor_eq : ∀ run ∈ runs, delayFor run.delta generationTime = .ok run.delay
  /-- Every run has the artifact of its value and protocol. -/
  artifact_eq : ∀ run ∈ runs,
    run.artifact = artifactPath request.outputDirectory run.protocol run.delta
  /-- Every run has the nodes and the rounds that were asked for. -/
  extent_eq : ∀ run ∈ runs, run.nodes = request.nodes ∧ run.endRound = request.endRound
  /-- No two runs have the same artifact. -/
  apart : runs.Pairwise fun earlier later => earlier.artifact.same later.artifact = false

theorem Request.Acceptable.positive {request : Request} {table : ProtocolTable}
    {generationTime : UInt64} (acceptable : request.Acceptable table generationTime) :
    ∀ delta ∈ request.deltas, Positive delta := by
  intro delta asked
  obtain ⟨finite, positive, -⟩ := acceptable.delays delta asked
  exact (positive_iff delta).mpr ⟨finite, positive⟩

/-- Different values are settled with different artifacts. -/
theorem Request.Acceptable.apart {request : Request} {table : ProtocolTable}
    {generationTime : UInt64} (acceptable : request.Acceptable table generationTime)
    (directory : Path) (protocol : String) :
    request.deltas.Pairwise fun earlier later =>
      (artifactPath directory protocol earlier).same (artifactPath directory protocol later)
        = false := by
  refine acceptable.distinct.imp_of_mem ?_
  intro earlier later earlierMember laterMember different
  have earlierPositive := acceptable.positive earlier earlierMember
  have laterPositive := acceptable.positive later laterMember
  rw [← Bool.not_eq_true] at different ⊢
  rwa [same_artifactPath_iff earlierPositive laterPositive, ← earlierPositive.beq_iff]

/-- The values of an acceptable request are settled as they should be. -/
theorem Request.Acceptable.settled {request : Request} {table : ProtocolTable}
    {generationTime : UInt64} (acceptable : request.Acceptable table generationTime) :
    request.Settled generationTime
      (request.deltas.map
        (request.settle (normalizeProtocol request.protocol) generationTime)) := by
  refine ⟨?_, ?_, ?_, ?_, ?_, ?_, ?_⟩
  · rw [List.map_map]
    exact List.map_id _
  · simp [settle]
  · simp [settle]
  · intro run member
    obtain ⟨delta, asked, rfl⟩ := List.mem_map.mp member
    obtain ⟨delay, fits⟩ := delayFor_ok_iff.mpr (acceptable.delays delta asked)
    simp [settle, fits, Except.toOption]
  · simp [settle]
  · simp [settle]
  · simpa only [List.pairwise_map, settle] using acceptable.apart _ _

/-- A request is planned exactly if it is acceptable with some generation time. Its
runs then carry what that time says, and otherwise the request is at fault. -/
theorem plan_exact (request : Request) (table : ProtocolTable) :
    ((∃ runs, plan request table = .ok runs) ↔
      ∃ generationTime, request.Acceptable table generationTime)
    ∧ (∀ runs, plan request table = .ok runs → ∃ generationTime,
        request.Acceptable table generationTime ∧ request.Settled generationTime runs)
    ∧ ∀ failure, plan request table = .error failure → failure.kind = .configuration := by
  have accepted {runs : List Run} (planned : plan request table = .ok runs) :
      ∃ generationTime, request.Acceptable table generationTime
        ∧ request.Settled generationTime runs := by
    obtain ⟨deltas, nodes, endRound, protocol, generationTime, resolved, settled⟩ :=
      plan_ok_iff.mp planned
    obtain ⟨delays, distinct, rfl⟩ := planRuns_ok_iff_distinct.mp settled
    have acceptable : request.Acceptable table generationTime :=
      ⟨deltas, Nat.pos_of_ne_zero nodes, Nat.pos_of_ne_zero endRound,
        mt (normalizeProtocol_eq_empty_iff _).mpr protocol,
        ProtocolTable.resolve_ok_iff.mp resolved, delays, distinct⟩
    exact ⟨generationTime, acceptable, acceptable.settled⟩
  refine ⟨⟨?_, ?_⟩, fun _ => accepted, fun _ => plan_error_kind⟩
  · rintro ⟨runs, planned⟩
    obtain ⟨generationTime, acceptable, -⟩ := accepted planned
    exact ⟨generationTime, acceptable⟩
  · rintro ⟨generationTime, acceptable⟩
    refine ⟨_, plan_ok_iff.mpr ⟨acceptable.deltas, Nat.ne_of_gt acceptable.nodes,
      Nat.ne_of_gt acceptable.endRound, mt (normalizeProtocol_eq_empty_iff _).mp
        acceptable.protocol, generationTime,
      ProtocolTable.resolve_ok_iff.mpr acceptable.resolves,
      planRuns_ok_iff_distinct.mpr ⟨acceptable.delays, acceptable.distinct, rfl⟩⟩⟩

end DeltaStudy.Campaign
