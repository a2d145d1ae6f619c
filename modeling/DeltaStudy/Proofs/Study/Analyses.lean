import DeltaStudy.Proofs.Artifact.Accounts
import DeltaStudy.Proofs.Study.Desks
import DeltaStudy.Proofs.Trend.Averages

/-!
# What an analysis shows

Whatever a desk answers, an analysis that succeeds shows the measurements of bytes that were
read: one point for each of them, in the order of the rounds, and figures that count them.
Smoothing takes for granted that rounds ascend and do not repeat; they do in every artifact
that can be read.
-/

namespace DeltaStudy.Study

open Artifact (Measurements)

variable {σ : Type}

/-! ## Where the bytes come from -/

namespace Desk

/-- A step that has been followed by another one ended somewhere. -/
theorem exists_of_run_bind {α β : Type} {first : StateM σ α} {second : α → StateM σ β} {value : β}
    {state final : σ} (run : (first >>= second).run state = (value, final)) :
    ∃ result between, first.run state = (result, between)
      ∧ (second result).run between = (value, final) :=
  ⟨_, _, rfl, run⟩

variable {desk : Desk (StateM σ)} {source : Source} {window : Nat} {state final : σ}

/-- Bytes of an artifact are bytes that the storage has answered. -/
theorem exists_read_of_bytesOf {artifact : Path} {bytes : List UInt8}
    (found : (desk.bytesOf artifact).run state = (.ok bytes, final)) :
    ∃ between, (desk.storage.read artifact).run between = (.ok bytes, final) := by
  obtain ⟨isFile, between, -, found⟩ := exists_of_run_bind found
  cases isFile with
  | true => exact ⟨between, found⟩
  | false => cases found

/-- An analysis of bytes is that of the bytes alone, whatever is told on the way. -/
theorem ofBytes_of_analyzeBytes {bytes : List UInt8} {result : Except Failure Analysis}
    (analyzed : (desk.analyzeBytes source window bytes).run state = (result, final)) :
    Analysis.ofBytes source window bytes = result := by
  rw [analyzeBytes] at analyzed
  rw [Analysis.ofBytes]
  cases scanned : Artifact.scan source.artifact bytes with
  | error failure =>
    rw [scanned] at analyzed
    cases analyzed
    rfl
  | ok scan =>
    simp only [scanned] at analyzed
    obtain ⟨-, between, -, analyzed⟩ := exists_of_run_bind analyzed
    split at analyzed
    · obtain ⟨-, _, -, analyzed⟩ := exists_of_run_bind analyzed
      cases analyzed
      rfl
    · cases analyzed
      rfl

/-- What is analysed has been read. -/
theorem exists_ofBytes_of_analyze {analysis : Analysis}
    (analyzed : (desk.analyze source window).run state = (.ok analysis, final)) :
    ∃ bytes between after, (desk.storage.read source.artifact).run between = (.ok bytes, after)
      ∧ Analysis.ofBytes source window bytes = .ok analysis := by
  obtain ⟨result, after, found, analyzed⟩ := exists_of_run_bind analyzed
  cases result with
  | error failure => cases analyzed
  | ok bytes =>
    obtain ⟨between, read⟩ := exists_read_of_bytesOf found
    exact ⟨bytes, between, after, read, ofBytes_of_analyzeBytes analyzed⟩

end Desk

/-! ## What is shown -/

/-- An analysis that shows its measurements as they are. -/
structure Analysis.Derived (source : Source) (window : Nat) (analysis : Analysis) : Prop where
  /-- Measurements are smoothed in the order of their rounds, of which none repeats. -/
  ascending : analysis.measurements.records.Pairwise fun earlier later =>
    earlier.round < later.round
  /-- There is one point for each measurement, in the same order. -/
  shows : List.Forall₂ Trend.Point.Shows analysis.measurements.records analysis.series.points
  points_ascending : analysis.series.points.Pairwise fun earlier later =>
    earlier.round < later.round
  nonempty : analysis.series.points ≠ []
  averaged : Trend.Averaged window analysis.series.points
  label : analysis.series.label = source.label
  delta : analysis.series.delta = source.delta
  hasMiningTime : analysis.series.hasMiningTime = analysis.measurements.columns.miningTime.isSome
  /-- There are figures, and they count the rows that were neither set aside nor dropped. -/
  counted : ∃ statistics, analysis.statistics = some statistics
    ∧ statistics.count = analysis.measurements.rowsRead - analysis.measurements.rowErrors.length
      - analysis.measurements.duplicatesDropped
    ∧ 1 ≤ statistics.count
    ∧ (statistics.deviationSeconds.isSome = true ↔ 2 ≤ statistics.count)

/-- Points keep the order of the rounds of what they show. -/
theorem ascending_of_shows {measurements : List Artifact.Measurement} {points : List Trend.Point}
    (shows : List.Forall₂ Trend.Point.Shows measurements points)
    (ascending : measurements.Pairwise fun earlier later => earlier.round < later.round) :
    points.Pairwise fun earlier later => earlier.round < later.round := by
  have rounds : points.map Trend.Point.round = measurements.map Artifact.Measurement.round := by
    induction shows with
    | nil => rfl
    | cons shown _ inductionHypothesis =>
      rw [List.map_cons, List.map_cons, shown.round, inductionHypothesis ascending.of_cons]
  rw [← List.pairwise_map (R := (· < ·)), rounds, List.pairwise_map]
  exact ascending

/-- Measurements that have been read are analysed as they are. -/
theorem derived_of_read {source : Source} {window : Nat} {bytes : List UInt8}
    {measurements : Measurements} {series : Trend.Series}
    (measured : Measurements.ofBytes source.artifact bytes = .ok measurements)
    (made : Trend.Series.ofMeasurements measurements window source.label source.delta = .ok series) :
    Analysis.Derived source window ⟨measurements, series, series.statistics?⟩ := by
  have accounted : measurements.Accounted bytes := by
    obtain ⟨header, columns, readable, resolved, nonempty, rfl⟩ :=
      Measurements.ofBytes_eq_ok_iff.mp measured
    exact Artifact.accounted_of_resolved readable resolved nonempty
  obtain ⟨-, same⟩ := Trend.Series.ofMeasurements_eq_ok_iff.mp made
  have points : series.points
      = measurements.records.mapIdx (Trend.pointAt measurements.records window) := by rw [same]
  have shows : List.Forall₂ Trend.Point.Shows measurements.records series.points := by
    rw [points]
    exact Trend.forall₂_shows measurements.records window
  have length := shows.length_eq
  have nonempty : series.points ≠ [] := by
    rw [← List.length_pos_iff, ← length, List.length_pos_iff]
    exact accounted.nonempty
  obtain ⟨statistics, known, count, deviation⟩ := Trend.Series.exists_statistics nonempty
  refine ⟨accounted.ascending, shows, ascending_of_shows shows accounted.ascending, nonempty,
    ?_, by rw [same], by rw [same], by rw [same]; rfl, statistics, known, ?_, ?_, deviation⟩
  · show Trend.Averaged window series.points
    rw [points]
    exact Trend.averaged_mapIdx measurements.records window
  · show statistics.count
      = measurements.rowsRead - measurements.rowErrors.length - measurements.duplicatesDropped
    have parted := accounted.parted
    omega
  · rw [count]
    exact List.length_pos_iff.mpr nonempty

/-- Bytes are analysed once their header can be resolved and a row is valid. -/
theorem Analysis.exists_ofBytes (source : Source) {window : Nat} (positive : 0 < window)
    {bytes : List UInt8} {header : List String} {columns : Artifact.Columns}
    (readable : Artifact.headerOf? bytes = some header)
    (resolved : Artifact.resolveColumns source.artifact header = .ok columns)
    (nonempty : (Artifact.scanOf columns bytes).valid ≠ []) :
    ∃ analysis, Analysis.ofBytes source window bytes = .ok analysis
      ∧ analysis.measurements
        = Measurements.account source.artifact (Artifact.scanOf columns bytes) := by
  let measurements := Measurements.account source.artifact (Artifact.scanOf columns bytes)
  have measured : Measurements.ofBytes source.artifact bytes = .ok measurements :=
    Measurements.ofBytes_eq_ok_iff.mpr ⟨header, columns, readable, resolved, nonempty, rfl⟩
  obtain ⟨series, smoothed⟩ :=
    Trend.Series.exists_ofMeasurements measurements positive source.label source.delta
  refine ⟨⟨measurements, series, series.statistics?⟩, ?_, rfl⟩
  rw [Analysis.ofBytes_eq, measured]
  simp only [smoothed, Except.map]

/-- An analysis of bytes shows the measurements in them. -/
theorem derived_of_ofBytes {source : Source} {window : Nat} {bytes : List UInt8}
    {analysis : Analysis} (made : Analysis.ofBytes source window bytes = .ok analysis) :
    Measurements.ofBytes source.artifact bytes = .ok analysis.measurements
      ∧ analysis.Derived source window := by
  rw [Analysis.ofBytes_eq] at made
  split at made
  case h_1 => cases made
  case h_2 measurements measured =>
    obtain ⟨series, smoothed, rfl⟩ := map_eq_ok_iff.mp made
    exact ⟨measured, derived_of_read measured smoothed⟩

/-- An analysis that succeeds shows what was read, however the desk answers. -/
theorem analyze_derived {desk : Desk (StateM σ)} {source : Source} {window : Nat} {state final : σ}
    {analysis : Analysis}
    (analyzed : (desk.analyze source window).run state = (.ok analysis, final)) :
    (∃ bytes between after, (desk.storage.read source.artifact).run between = (.ok bytes, after)
      ∧ Measurements.ofBytes source.artifact bytes = .ok analysis.measurements)
    ∧ 0 < window ∧ analysis.Derived source window := by
  obtain ⟨bytes, between, after, read, made⟩ := Desk.exists_ofBytes_of_analyze analyzed
  rw [Analysis.ofBytes_eq] at made
  cases measured : Measurements.ofBytes source.artifact bytes with
  | error failure =>
    rw [measured] at made
    cases made
  | ok measurements =>
    simp only [measured] at made
    cases smoothed : Trend.Series.ofMeasurements measurements window source.label source.delta with
    | error failure =>
      rw [smoothed] at made
      cases made
    | ok series =>
      rw [smoothed] at made
      cases made
      exact ⟨⟨bytes, between, after, read, measured⟩,
        (Trend.Series.ofMeasurements_eq_ok_iff.mp smoothed).1,
        derived_of_read measured smoothed⟩

/-- A table with its rounds in the wrong order, one of them twice, and a row set aside. -/
theorem analyze_derived_of_table :
    let ascii (text : String) : List UInt8 := text.toList.map fun letter => .ofNat letter.toNat
    let bytes := ascii "round,mining_time,difficulty\n2,3000,0.5\n1,1000,0.25\n2,9,9\nx,1,1\n"
    let archive := Storage.Archive.ofFiles [(⟨"a.csv"⟩, bytes)]
    let source := Source.ofFile ⟨"a.csv"⟩
    ∃ analysis final, (Desk.ofArchive.analyze source 2).run archive = (.ok analysis, final)
      ∧ analysis.measurements.rowsRead = 4 ∧ analysis.measurements.rowErrors.length = 1
      ∧ analysis.measurements.duplicatesDropped = 1
      ∧ 0 < 2 ∧ analysis.Derived source 2 := by
  intro ascii bytes archive source
  let columns : Artifact.Columns := ⟨0, some 1, 2, false⟩
  have readable : Artifact.headerOf? bytes = some ["round", "mining_time", "difficulty"] := by
    decide +kernel
  have resolved : Artifact.resolveColumns ⟨"a.csv"⟩ ["round", "mining_time", "difficulty"]
      = .ok columns := by decide +kernel
  have nonempty : (Artifact.scanOf columns bytes).valid ≠ [] := by decide +kernel
  have stored : archive.read source.artifact = .ok bytes := by decide +kernel
  let measurements := Measurements.account source.artifact (Artifact.scanOf columns bytes)
  have measured : Measurements.ofBytes source.artifact bytes = .ok measurements :=
    Measurements.ofBytes_eq_ok_iff.mpr ⟨_, _, readable, resolved, nonempty, rfl⟩
  have rowsRead : measurements.rowsRead = 4 := by decide +kernel
  have rowErrors : measurements.rowErrors.length = 1 := by decide +kernel
  have duplicates : measurements.duplicatesDropped = 1 := by decide +kernel
  obtain ⟨series, made⟩ := Trend.Series.exists_ofMeasurements measurements (show 0 < 2 by decide)
    source.label source.delta
  have analyzed : (Desk.ofArchive.analyze source 2).run archive
      = (.ok ⟨measurements, series, series.statistics?⟩, archive) := by
    have reads : (Desk.ofArchive.analyze source 2).run archive
        = (archive.read source.artifact >>= Analysis.ofBytes source 2, archive) :=
      Desk.reads_analyze source 2 archive
    rw [reads, stored]
    show (Analysis.ofBytes source 2 bytes, archive) = _
    rw [Analysis.ofBytes_eq, measured]
    simp only [made, Except.map]
  exact ⟨_, _, analyzed, rowsRead, rowErrors, duplicates, (analyze_derived analyzed).2⟩

end DeltaStudy.Study
