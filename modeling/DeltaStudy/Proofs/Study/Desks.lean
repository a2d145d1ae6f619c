import DeltaStudy.Proofs.Artifact.Rows
import DeltaStudy.Storage.Archive
import DeltaStudy.Study.Comparison

/-!
# Studies at an archive

At an archive a study only reads. What is analysed is what the archive holds, the archive
is left as it was, and nothing depends on what was analysed before. An analysis fails
where there is no artifact or no measurements in it, and else only for want of a window.
-/

namespace DeltaStudy

open Storage (Archive)

/-! ## Series of measurements -/

namespace Trend

/-- A series keeps what is known about how its artifact was made. -/
theorem Series.delta_of_ofMeasurements {measurements : Artifact.Measurements} {window : Nat}
    {label : String} {delta : Option Float} {series : Series}
    (made : ofMeasurements measurements window label delta = .ok series) :
    series.delta = delta := by
  obtain ⟨points, -, made⟩ := bind_eq_ok_iff.mp made
  cases made
  rfl

/-- Measurements have a series for every window that is not empty. -/
theorem Series.exists_ofMeasurements (measurements : Artifact.Measurements) {window : Nat}
    (positive : 0 < window) (label : String) (delta : Option Float) :
    ∃ series, ofMeasurements measurements window label delta = .ok series := by
  simp [ofMeasurements, pointsOf, movingAverage, Nat.ne_of_gt positive, bind, Except.bind, pure,
    Except.pure]

end Trend

namespace Study

/-! ## Analyses -/

namespace Analysis

/-- An analysis starts with the measurements. -/
theorem ofBytes_eq (source : Source) (window : Nat) (bytes : List UInt8) :
    ofBytes source window bytes =
      match Artifact.Measurements.ofBytes source.artifact bytes with
      | .error failure => .error failure
      | .ok measurements =>
        (Trend.Series.ofMeasurements measurements window source.label source.delta).map
          fun series => ⟨measurements, series, series.statistics?⟩ := by
  simp only [ofBytes, ofScan, Artifact.Measurements.ofBytes, bind, Except.bind]
  cases Artifact.scan source.artifact bytes with
  | error failure => rfl
  | ok scan =>
    simp only
    cases Artifact.Measurements.ofScan source.artifact scan with
    | error failure => rfl
    | ok measurements =>
      simp only
      cases Trend.Series.ofMeasurements measurements window source.label source.delta <;> rfl

end Analysis

namespace Desk

/-! ## Reading -/

/-- A computation that only reads, as a function of what it reads. -/
def Reads {σ α : Type} (computation : StateM σ α) (value : σ → α) : Prop :=
  ∀ state, computation.run state = (value state, state)

section Reads

variable {σ α β : Type}

theorem reads_pure (value : α) : Reads (pure value : StateM σ α) fun _ => value :=
  fun _ => rfl

/-- What is done with a value that was read sees the same state. -/
theorem Reads.bind {first : StateM σ α} {value : σ → α} {second : α → StateM σ β}
    (reads : Reads first value) (result : α → σ → β)
    (later : ∀ between, Reads (second between) (result between)) :
    Reads (first >>= second) fun state => result (value state) state := by
  intro state
  rw [StateT.run_bind, reads state]
  exact later (value state) state

/-- What only reads for each element only reads for all of them. -/
theorem reads_mapM {step : α → StateM σ β} {value : α → σ → β}
    (reads : ∀ element, Reads (step element) (value element)) (list : List α) :
    Reads (list.mapM step) fun state => list.map (value · state) := by
  induction list with
  | nil => exact reads_pure []
  | cons head tail inductionHypothesis =>
    rw [List.mapM_cons]
    exact (reads head).bind _ fun _ => inductionHypothesis.bind _ fun _ => reads_pure _

end Reads

/-! ## The desk at an archive -/

/-- The desk at an archive. -/
abbrev ofArchive : Desk (StateM Archive) :=
  silent Archive.storage

/-- An artifact is looked for before it is read, which makes no difference. -/
theorem reads_bytesOf (artifact : Path) :
    Reads (ofArchive.bytesOf artifact) (Archive.read · artifact) := by
  have listed : Reads (ofArchive.storage.isFile artifact) (Archive.contains · artifact) :=
    fun _ => rfl
  have content : Reads (ofArchive.storage.read artifact) (Archive.read · artifact) :=
    fun _ => rfl
  intro archive
  rw [bytesOf, StateT.run_bind, listed archive]
  show StateT.run (if archive.contains artifact then _ else _) archive = _
  split
  case isTrue => exact content archive
  case isFalse missing =>
    have nothing : archive.get? artifact = none := by
      simpa [Archive.contains] using missing
    simp only [Archive.read, nothing]
    rfl

section Silent

variable {m : Type → Type} [Monad m] [LawfulMonad m] (storage : Storage m)

theorem forM_note_silent (events : List Event) :
    events.forM (silent storage).note = pure PUnit.unit := by
  induction events with
  | nil => rfl
  | cons event rest inductionHypothesis =>
    rw [List.forM_eq_forM, List.forM_cons, ← List.forM_eq_forM, inductionHypothesis]
    exact pure_bind _ _

/-- Without notice of events an analysis of bytes is just that. -/
theorem analyzeBytes_silent (source : Source) (window : Nat) (bytes : List UInt8) :
    (silent storage).analyzeBytes source window bytes
      = pure (Analysis.ofBytes source window bytes) := by
  rw [analyzeBytes, Analysis.ofBytes]
  cases Artifact.scan source.artifact bytes with
  | error failure => rfl
  | ok scan =>
    simp only [forM_note_silent, pure_bind]
    split
    · exact pure_bind _ _
    · rfl

end Silent

theorem reads_analyze (source : Source) (window : Nat) :
    Reads (ofArchive.analyze source window) fun archive =>
      archive.read source.artifact >>= Analysis.ofBytes source window := by
  refine (reads_bytesOf source.artifact).bind
    (fun read _ => read >>= Analysis.ofBytes source window) fun read => ?_
  cases read with
  | error failure => exact reads_pure _
  | ok bytes =>
    simp only [analyzeBytes_silent]
    exact reads_pure _

/-- The judgement of a source by what an archive holds. -/
def judgement (window : Nat) (source : Source) (archive : Archive) : Judged :=
  (source, archive.read source.artifact >>= Analysis.ofBytes source window)

theorem reads_judge (window : Nat) (source : Source) :
    Reads (ofArchive.judge window source) (judgement window source) := by
  refine (reads_analyze source window).bind (fun result _ => (source, result)) fun result => ?_
  cases result with
  | error failure => exact reads_pure _
  | ok analysis => exact reads_pure _

/-- A comparison at an archive judges every source by what the archive holds. -/
theorem reads_compare (sources : List Source) {window : Nat} (positive : 0 < window) :
    Reads (ofArchive.compare sources window) fun archive =>
      Comparison.ofJudged (sources.map (judgement window · archive)) := by
  rw [compare, if_neg (Nat.ne_of_gt positive)]
  exact (reads_mapM (reads_judge window) sources).bind _ fun _ => reads_pure _

end Desk

end Study

end DeltaStudy
