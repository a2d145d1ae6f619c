import Mathlib.Data.List.Forall2
import DeltaStudy.Proofs.Campaign.Planning
import DeltaStudy.Proofs.Protocol.Names
import DeltaStudy.Proofs.Storage.Archives
import DeltaStudy.Proofs.Study.Desks

/-!
# What a campaign writes is what a comparison reads

A comparison looks for the artifact of a value where the run of that value was planned to
write it, however the protocol is spelled. No two runs write to the same place, so each
source is loaded from the output of its own run, in whatever order the outputs were
stored. A run without an output, or with one that holds no measurements, is left out and
changes nothing for the others.
-/

namespace DeltaStudy.Study

open Artifact (Measurements)
open Campaign (Run Request artifactPath)
open Storage (Archive)

variable {output : Run → Option (List UInt8)} {request : Request} {table : ProtocolTable}
  {runs order : List Run} {tag : String}

/-! ## Where outputs are -/

/-- An archive in which runs have stored their outputs one after the other. -/
def archiveOf (output : Run → Option (List UInt8)) (order : List Run) : Archive :=
  .ofFiles (order.filterMap fun run => (output run).map (run.artifact, ·))

/-- The runs of a plan write to different places. -/
theorem artifacts_apart (planned : Campaign.plan request table = .ok runs) :
    runs.Pairwise fun earlier later => earlier.artifact.same later.artifact = false := by
  obtain ⟨-, -, -, -, generationTime, -, settled⟩ := Campaign.plan_ok_iff.mp planned
  obtain ⟨-, -, apart, rfl⟩ := (Campaign.planRuns_ok_iff _ _ _).mp settled
  simp only [List.pairwise_map, Request.settle]
  refine apart.imp fun {earlier later} different => ?_
  rw [Path.same_comm]
  exact different

/-- Where runs write to different places the archive has the output of each, in whatever
order they were stored. -/
theorem get?_archiveOf
    (apart : runs.Pairwise fun earlier later => earlier.artifact.same later.artifact = false)
    (perm : order.Perm runs) {run : Run} (member : run ∈ runs) :
    (archiveOf output order).get? run.artifact = output run := by
  have symmetric : Std.Symm fun earlier later : Run =>
      earlier.artifact.same later.artifact = false :=
    ⟨fun _ _ different => (Path.same_comm _ _).trans different⟩
  have apartInOrder := apart.perm perm.symm fun different => symmetric.symm _ _ different
  cases stored : output run with
  | some bytes =>
    refine Archive.get?_ofFiles_of_mem ?_ ?_
    · rw [List.pairwise_filterMap]
      refine apartInOrder.imp fun {earlier later} different file stored other stored' => ?_
      obtain ⟨bytes, -, rfl⟩ := Option.map_eq_some_iff.mp stored
      obtain ⟨bytes', -, rfl⟩ := Option.map_eq_some_iff.mp stored'
      exact different
    · exact List.mem_filterMap.mpr ⟨run, perm.mem_iff.mpr member, by rw [stored]; rfl⟩
  | none =>
    refine Archive.get?_ofFiles_of_forall fun file isFile => ?_
    obtain ⟨other, isOther, written⟩ := List.mem_filterMap.mp isFile
    obtain ⟨bytes, some, rfl⟩ := Option.map_eq_some_iff.mp written
    have different : run ≠ other := by
      rintro rfl
      rw [stored] at some
      cases some
    exact apart.forall member (perm.mem_iff.mp isOther) different

/-! ## Where sources are looked for -/

/-- The source of a run of a request, with the protocol in some spelling. -/
def Source.ofRun (request : Request) (tag : String) (run : Run) : Source :=
  .ofDelta request.outputDirectory tag run.delta

theorem Source.delta_ofRun (request : Request) (tag : String) (run : Run) :
    (ofRun request tag run).delta = some run.delta :=
  rfl

/-- A source is looked for where its run writes, however the protocol is spelled. -/
theorem Source.artifact_ofRun (planned : Campaign.plan request table = .ok runs)
    (spelled : normalizeProtocol tag = normalizeProtocol request.protocol) {run : Run}
    (member : run ∈ runs) : (ofRun request tag run).artifact = run.artifact := by
  obtain ⟨generationTime, rfl⟩ := Campaign.exists_settle_of_plan planned
  obtain ⟨delta, -, rfl⟩ := List.mem_map.mp member
  simp only [ofRun, ofDelta, Request.settle, artifactPath, spelled,
    normalizeProtocol_normalizeProtocol]

/-- There is one source for each run. -/
theorem sourcesOfDeltas_eq (planned : Campaign.plan request table = .ok runs) (tag : String) :
    sourcesOfDeltas request.outputDirectory tag request.deltas
      = runs.map (Source.ofRun request tag) := by
  obtain ⟨generationTime, rfl⟩ := Campaign.exists_settle_of_plan planned
  rw [sourcesOfDeltas, List.map_map]
  rfl

/-! ## What is loaded -/

/-- How a source is loaded from an archive for what its run has written, if anything. -/
structure Source.Loads (archive : Archive) (written : Option (List UInt8)) (source : Source) :
    Prop where
  /-- The bytes that were written are the bytes that are read and analysed. -/
  of_some : ∀ bytes, written = some bytes →
    (Desk.ofArchive.bytesOf source.artifact).run archive = (.ok bytes, archive)
    ∧ ∀ window, (Desk.ofArchive.analyze source window).run archive
        = (Analysis.ofBytes source window bytes, archive)
  /-- Without them the artifact is missing. -/
  of_none : written = none →
    ∃ failure, failure.kind = .missingArtifact
      ∧ (Desk.ofArchive.bytesOf source.artifact).run archive = (.error failure, archive)
      ∧ ∀ window, (Desk.ofArchive.analyze source window).run archive = (.error failure, archive)

theorem loads_get? (archive : Archive) (source : Source) :
    source.Loads archive (archive.get? source.artifact) := by
  have read : (Desk.ofArchive.bytesOf source.artifact).run archive
      = (archive.read source.artifact, archive) := Desk.reads_bytesOf _ archive
  have analyzed (window : Nat) : (Desk.ofArchive.analyze source window).run archive
      = (archive.read source.artifact >>= Analysis.ofBytes source window, archive) :=
    Desk.reads_analyze source window archive
  cases stored : archive.get? source.artifact with
  | some bytes =>
    have content : archive.read source.artifact = .ok bytes := by rw [Archive.read, stored]
    refine ⟨fun bytes same => ?_, by simp⟩
    cases same
    exact ⟨by rw [read, content], fun window => by rw [analyzed, content]; rfl⟩
  | none =>
    have missing : archive.read source.artifact = .error (.artifactNotFound source.artifact) := by
      rw [Archive.read, stored]
    refine ⟨by simp, fun _ => ⟨.artifactNotFound source.artifact, rfl, ?_, fun window => ?_⟩⟩
    · rw [read, missing]
    · rw [analyzed, missing]
      rfl

/-! ## What is compared -/

/-- What a run comes to: the measurements in its output, or why there are none. -/
def outcome (output : Run → Option (List UInt8)) (run : Run) : Except Failure Measurements :=
  match output run with
  | some bytes => Measurements.ofBytes run.artifact bytes
  | none => .error (.artifactNotFound run.artifact)

/-- The runs whose outputs hold measurements. -/
def accepted (output : Run → Option (List UInt8)) (runs : List Run) : List (Run × Measurements) :=
  runs.filterMap fun run =>
    match outcome output run with
    | .ok measurements => some (run, measurements)
    | .error _ => none

/-- The other runs, with what is wrong with them. -/
def rejected (output : Run → Option (List UInt8)) (runs : List Run) : List (Run × Failure) :=
  runs.filterMap fun run =>
    match outcome output run with
    | .ok _ => none
    | .error failure => some (run, failure)

section Cons

variable {run : Run}

theorem accepted_cons_ok {measurements : Measurements}
    (came : outcome output run = .ok measurements) :
    accepted output (run :: runs) = (run, measurements) :: accepted output runs :=
  List.filterMap_cons_some (by rw [came])

theorem accepted_cons_error {failure : Failure} (came : outcome output run = .error failure) :
    accepted output (run :: runs) = accepted output runs :=
  List.filterMap_cons_none (by rw [came])

theorem rejected_cons_ok {measurements : Measurements}
    (came : outcome output run = .ok measurements) :
    rejected output (run :: runs) = rejected output runs :=
  List.filterMap_cons_none (by rw [came])

theorem rejected_cons_error {failure : Failure} (came : outcome output run = .error failure) :
    rejected output (run :: runs) = (run, failure) :: rejected output runs :=
  List.filterMap_cons_some (by rw [came])

end Cons

/-- A comparison that shows each accepted run by the series of its own measurements and
has left out the others, both in the order of the runs. -/
structure Comparison.Shows (output : Run → Option (List UInt8)) (source : Run → Source)
    (window : Nat) (runs : List Run) (comparison : Comparison) : Prop where
  charted : List.Forall₂
    (fun (run, measurements) series => series.delta = some run.delta
      ∧ Trend.Series.ofMeasurements measurements window (source run).label (some run.delta)
        = .ok series)
    (accepted output runs) comparison.content.series
  skipped : comparison.skipped
    = (rejected output runs).map fun (run, failure) => ⟨source run, failure⟩

section Judged

variable {archive : Archive} {window : Nat}

/-- A source is judged by what its run comes to: it has the same fault, or an analysis of
the same measurements. -/
theorem judgement_of_outcome {run : Run} {source : Source} (positive : 0 < window)
    (placed : source.artifact = run.artifact) (tagged : source.delta = some run.delta)
    (stored : archive.get? run.artifact = output run) :
    match outcome output run with
    | .error failure => Desk.judgement window source archive = (source, .error failure)
    | .ok measurements => ∃ series, series.delta = some run.delta
      ∧ Trend.Series.ofMeasurements measurements window source.label (some run.delta) = .ok series
      ∧ Desk.judgement window source archive
        = (source, .ok ⟨measurements, series, series.statistics?⟩) := by
  rw [outcome, Desk.judgement, Archive.read, placed, stored]
  cases output run with
  | none => rfl
  | some bytes =>
    have analyzed : Except.ok bytes >>= Analysis.ofBytes source window
        = Analysis.ofBytes source window bytes := rfl
    simp only [analyzed, Analysis.ofBytes_eq, placed, tagged]
    cases Measurements.ofBytes run.artifact bytes with
    | error failure => rfl
    | ok measurements =>
      obtain ⟨series, made⟩ :=
        Trend.Series.exists_ofMeasurements measurements positive source.label (some run.delta)
      exact ⟨series, Trend.Series.delta_of_ofMeasurements made, made, by simp [made, Except.map]⟩

/-- Judging the sources of runs charts the accepted runs and leaves out the others. -/
theorem charted_and_leftOut {source : Run → Source} (positive : 0 < window)
    (placed : ∀ run ∈ runs, (source run).artifact = run.artifact)
    (tagged : ∀ run, (source run).delta = some run.delta)
    (stored : ∀ run ∈ runs, archive.get? run.artifact = output run) :
    let judged := (runs.map source).map (Desk.judgement window · archive)
    List.Forall₂
      (fun (run, measurements) series => series.delta = some run.delta
        ∧ Trend.Series.ofMeasurements measurements window (source run).label (some run.delta)
          = .ok series)
      (accepted output runs) (Comparison.charted judged)
    ∧ Comparison.leftOut judged
      = (rejected output runs).map fun (run, failure) => ⟨source run, failure⟩ := by
  induction runs with
  | nil => exact ⟨.nil, rfl⟩
  | cons run rest inductionHypothesis =>
    rw [List.forall_mem_cons] at placed stored
    obtain ⟨charted, leftOut⟩ := inductionHypothesis placed.2 stored.2
    have judgement := judgement_of_outcome positive placed.1 (tagged run) stored.1
    cases came : outcome output run with
    | error failure =>
      rw [came] at judgement
      simp only [List.map_cons, judgement, accepted_cons_error came, rejected_cons_error came]
      exact ⟨charted, congrArg (List.cons _) leftOut⟩
    | ok measurements =>
      rw [came] at judgement
      obtain ⟨series, delta, made, judgement⟩ := judgement
      simp only [List.map_cons, judgement, accepted_cons_ok came, rejected_cons_ok came]
      exact ⟨.cons ⟨delta, made⟩ charted, leftOut⟩

/-- With an accepted run a comparison comes about, and the archive stays as it is. -/
theorem compare_of_stored {source : Run → Source} (positive : 0 < window)
    (placed : ∀ run ∈ runs, (source run).artifact = run.artifact)
    (tagged : ∀ run, (source run).delta = some run.delta)
    (stored : ∀ run ∈ runs, archive.get? run.artifact = output run)
    (nonempty : accepted output runs ≠ []) :
    ∃ comparison, (Desk.ofArchive.compare (runs.map source) window).run archive
        = (.ok comparison, archive)
      ∧ comparison.Shows output source window runs := by
  obtain ⟨charted, leftOut⟩ := charted_and_leftOut positive placed tagged stored
  generalize judgedEq : (runs.map source).map (Desk.judgement window · archive) = judged at *
  have compared : (Desk.ofArchive.compare (runs.map source) window).run archive
      = (Comparison.ofJudged judged, archive) :=
    judgedEq ▸ Desk.reads_compare (runs.map source) positive archive
  have some : ¬ (Comparison.charted judged).isEmpty = true := by
    intro nothing
    rw [List.isEmpty_iff.mp nothing] at charted
    exact nonempty (List.forall₂_nil_right_iff.mp charted)
  rw [Comparison.ofJudged, if_neg some] at compared
  exact ⟨_, compared, charted, leftOut⟩

end Judged

/-- What a plan's runs have written, in any order, is what a comparison of its values
reads, with the protocol in any spelling. -/
theorem compare_written (planned : Campaign.plan request table = .ok runs)
    (spelled : normalizeProtocol tag = normalizeProtocol request.protocol)
    (output : Run → Option (List UInt8)) (perm : order.Perm runs) :
    let archive := archiveOf output order
    let sources := sourcesOfDeltas request.outputDirectory tag request.deltas
    List.Forall₂ (fun run source => source.artifact = run.artifact
      ∧ source.delta = some run.delta ∧ source.Loads archive (output run)) runs sources
    ∧ ∀ window, 0 < window → accepted output runs ≠ [] →
      ∃ comparison, (Desk.ofArchive.compare sources window).run archive = (.ok comparison, archive)
        ∧ comparison.Shows output (Source.ofRun request tag) window runs := by
  intro archive sources
  have placed : ∀ run ∈ runs, (Source.ofRun request tag run).artifact = run.artifact :=
    fun run member => Source.artifact_ofRun planned spelled member
  have stored : ∀ run ∈ runs, archive.get? run.artifact = output run :=
    fun run member => get?_archiveOf (artifacts_apart planned) perm member
  have each : sources = runs.map (Source.ofRun request tag) := sourcesOfDeltas_eq planned tag
  rw [each]
  refine ⟨?_, fun window positive nonempty =>
    compare_of_stored positive placed (Source.delta_ofRun request tag) stored nonempty⟩
  rw [List.forall₂_map_right_iff, List.forall₂_same]
  intro run member
  have loads := loads_get? archive (Source.ofRun request tag run)
  rw [placed run member, stored run member] at loads
  exact ⟨placed run member, rfl, loads⟩

/-- Of three runs the last one stores first, something that is no table, the second one
nothing, and the first one a table. -/
theorem compare_written_one_of_three :
    let ascii (text : String) : List UInt8 := text.toList.map fun letter => .ofNat letter.toNat
    let request : Request :=
      { protocol := " BitCoin", deltas := [0.1, 2, 5], nodes := 4, endRound := 9
        generationTime := some 10, outputDirectory := ⟨"out/"⟩, workers := 1 }
    let run (delta : Float) (delay : UInt64) (artifact : String) : Run :=
      { protocol := "bitcoin", delta, delay, generationTime := 10, nodes := 4, endRound := 9
        artifact := ⟨artifact⟩ }
    let first := run 0.1 1 "out/bitcoin-0.1.csv"
    let second := run 2 20 "out/bitcoin-2.csv"
    let third := run 5 50 "out/bitcoin-5.csv"
    let output (run : Run) : Option (List UInt8) :=
      if run = first then some (ascii "round,difficulty\n1,2\n")
      else if run = third then some (ascii "nothing") else none
    let archive := archiveOf output [third, second, first]
    let sources := sourcesOfDeltas ⟨"out/"⟩ "BITCOIN\t" [0.1, 2, 5]
    Campaign.plan request ⟨[]⟩ = .ok [first, second, third]
    ∧ normalizeProtocol "BITCOIN\t" = normalizeProtocol request.protocol
    ∧ [third, second, first].Perm [first, second, third]
    ∧ List.Forall₂ (fun run source => source.artifact = run.artifact
        ∧ source.delta = some run.delta ∧ source.Loads archive (output run))
      [first, second, third] sources
    ∧ accepted output [first, second, third] ≠ []
    ∧ ∃ comparison, (Desk.ofArchive.compare sources 3).run archive = (.ok comparison, archive)
      ∧ comparison.Shows output (Source.ofRun request "BITCOIN\t") 3 [first, second, third] := by
  intro ascii request run first second third output archive sources
  have planned : Campaign.plan request ⟨[]⟩ = .ok [first, second, third] := by decide +kernel
  have spelled : normalizeProtocol "BITCOIN\t" = normalizeProtocol request.protocol := by
    decide +kernel
  have perm : [third, second, first].Perm [first, second, third] := by decide +kernel
  have nonempty : accepted output [first, second, third] ≠ [] := by decide +kernel
  obtain ⟨loads, compared⟩ := compare_written planned spelled output perm
  exact ⟨planned, spelled, perm, loads, nonempty, compared 3 (by decide) nonempty⟩

end DeltaStudy.Study
