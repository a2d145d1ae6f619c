import DeltaStudy.Proofs.Study.Desks
import DeltaStudy.Storage.FileTree

/-!
# Charted or left out

A comparison takes its sources in turn, and each of them is either charted or left out.
`Desk.Sorts` says how, for every desk: also for one that changes while it is asked, so that
an analysis may depend on those before it.

A desk that stays as it is when it is asked analyses every source as if it were alone. A
comparison there is told by the analyses of its sources alone, and comparing two lists of
sources at once is the same as comparing each of them.
-/

namespace DeltaStudy.Study

open Storage (Archive)

variable {σ : Type}

/-! ## Sources in turn -/

/-- Sources that are analysed in turn, each at the state in which the one before has left the
desk, with the series of those that can be analysed and with the others and their failures.
That a source is left out is told. -/
inductive Desk.Sorts (desk : Desk (StateM σ)) (window : Nat) :
    σ → List Source → List Trend.Series → List Skipped → σ → Prop where
  | nil {state : σ} : Sorts desk window state [] [] [] state
  | charted {state between final : σ} {source : Source} {rest : List Source}
      {analysis : Analysis} {series : List Trend.Series} {skipped : List Skipped}
      (analyzed : (desk.analyze source window).run state = (.ok analysis, between))
      (later : Sorts desk window between rest series skipped final) :
      Sorts desk window state (source :: rest) (analysis.series :: series) skipped final
  | leftOut {state between told final : σ} {source : Source} {rest : List Source}
      {failure : Failure} {series : List Trend.Series} {skipped : List Skipped}
      (refused : (desk.analyze source window).run state = (.error failure, between))
      (noted : (desk.note .artifactSkipped).run between = ((), told))
      (later : Sorts desk window told rest series skipped final) :
      Sorts desk window state (source :: rest) series (⟨source, failure⟩ :: skipped) final

namespace Desk

variable {desk : Desk (StateM σ)} {window : Nat} {state between final : σ}
  {sources : List Source} {series : List Trend.Series} {skipped : List Skipped}

/-- Sources can always be taken in turn. -/
theorem exists_sorts (desk : Desk (StateM σ)) (window : Nat) (sources : List Source) (state : σ) :
    ∃ series skipped final, desk.Sorts window state sources series skipped final := by
  induction sources generalizing state with
  | nil => exact ⟨[], [], state, .nil⟩
  | cons source rest inductionHypothesis =>
    cases came : (desk.analyze source window).run state with
    | mk result between =>
      cases result with
      | ok analysis =>
        obtain ⟨series, skipped, final, later⟩ := inductionHypothesis between
        exact ⟨_, _, final, .charted came later⟩
      | error failure =>
        obtain ⟨series, skipped, final, later⟩ :=
          inductionHypothesis ((desk.note .artifactSkipped).run between).2
        exact ⟨_, _, final, .leftOut came rfl later⟩

/-- Every source is charted or left out, and only one of both. -/
theorem Sorts.length_add_length (sorts : desk.Sorts window state sources series skipped final) :
    series.length + skipped.length = sources.length := by
  induction sorts with
  | nil => rfl
  | charted _ _ inductionHypothesis =>
    rw [List.length_cons, List.length_cons, ← inductionHypothesis, Nat.add_right_comm]
  | leftOut _ _ _ inductionHypothesis =>
    rw [List.length_cons, List.length_cons, ← inductionHypothesis, Nat.add_assoc]

/-- What is sorted in two parts is sorted at once. -/
theorem Sorts.append {later : List Source} {laterSeries : List Trend.Series}
    {laterSkipped : List Skipped}
    (first : desk.Sorts window state sources series skipped between)
    (second : desk.Sorts window between later laterSeries laterSkipped final) :
    desk.Sorts window state (sources ++ later) (series ++ laterSeries) (skipped ++ laterSkipped)
      final := by
  induction first with
  | nil => exact second
  | charted analyzed _ inductionHypothesis => exact .charted analyzed (inductionHypothesis second)
  | leftOut refused noted _ inductionHypothesis =>
    exact .leftOut refused noted (inductionHypothesis second)

/-! ## Comparisons -/

/-- What is done after a step starts from where the step ends. -/
theorem run_bind_of_run {α β : Type} {first : StateM σ α} {second : α → StateM σ β} {value : α}
    (run : first.run state = (value, between)) :
    (first >>= second).run state = (second value).run between := by
  rw [StateT.run_bind, run]
  rfl

theorem run_judge_ok {source : Source} {analysis : Analysis}
    (analyzed : (desk.analyze source window).run state = (.ok analysis, between)) :
    (desk.judge window source).run state = ((source, .ok analysis), between) := by
  rw [judge, run_bind_of_run analyzed]
  rfl

theorem run_judge_error {source : Source} {failure : Failure} {told : σ}
    (refused : (desk.analyze source window).run state = (.error failure, between))
    (noted : (desk.note .artifactSkipped).run between = ((), told)) :
    (desk.judge window source).run state = ((source, .error failure), told) := by
  rw [judge, run_bind_of_run refused]
  exact run_bind_of_run noted

/-- Judging the sources of a comparison sorts them. -/
theorem Sorts.run_mapM_judge (sorts : desk.Sorts window state sources series skipped final) :
    ∃ judged, (sources.mapM (desk.judge window)).run state = (judged, final)
      ∧ judged.length = sources.length
      ∧ Comparison.charted judged = series ∧ Comparison.leftOut judged = skipped := by
  induction sorts with
  | nil => exact ⟨[], rfl, rfl, rfl, rfl⟩
  | @charted _ _ _ source _ analysis _ _ analyzed _ inductionHypothesis =>
    obtain ⟨judged, run, length, charted, leftOut⟩ := inductionHypothesis
    refine ⟨(source, .ok analysis) :: judged, ?_, by simp [length], ?_, leftOut⟩
    · rw [List.mapM_cons, run_bind_of_run (run_judge_ok analyzed), run_bind_of_run run]
      rfl
    · exact congrArg (analysis.series :: ·) charted
  | @leftOut _ _ _ _ source _ failure _ _ refused noted _ inductionHypothesis =>
    obtain ⟨judged, run, length, charted, leftOut⟩ := inductionHypothesis
    refine ⟨(source, .error failure) :: judged, ?_, by simp [length], charted, ?_⟩
    · rw [List.mapM_cons, run_bind_of_run (run_judge_error refused noted), run_bind_of_run run]
      rfl
    · exact congrArg (⟨source, failure⟩ :: ·) leftOut

/-- A comparison comes about unless none of its sources is charted. -/
theorem Sorts.compare (sorts : desk.Sorts window state sources series skipped final)
    (positive : 0 < window) :
    (desk.compare sources window).run state =
      (if series = [] then .error (.nothingToCompare sources.length skipped.length)
        else .ok ⟨.ofSeries series, skipped⟩, final) := by
  obtain ⟨judged, run, length, rfl, rfl⟩ := sorts.run_mapM_judge
  rw [Desk.compare, if_neg (Nat.ne_of_gt positive), run_bind_of_run run, ← length]
  simp only [Comparison.ofJudged, List.isEmpty_iff]
  rfl

/-! ## Desks that stay as they are -/

/-- A desk that is left as it was by every question and every note. -/
structure Steady (desk : Desk (StateM σ)) : Prop where
  isFile : ∀ path, ∃ answer, Reads (desk.storage.isFile path) answer
  read : ∀ path, ∃ answer, Reads (desk.storage.read path) answer
  note : ∀ event, Reads (desk.note event) fun _ => ()

/-- The analysis of a source by itself. -/
def alone (desk : Desk (StateM σ)) (window : Nat) (state : σ) (source : Source) :
    Except Failure Analysis :=
  ((desk.analyze source window).run state).1

/-- Questions one after the other are a question. -/
theorem exists_reads_bind {α β : Type} {first : StateM σ α} {second : α → StateM σ β}
    (reads : ∃ answer, Reads first answer) (later : ∀ value, ∃ answer, Reads (second value) answer) :
    ∃ answer, Reads (first >>= second) answer := by
  obtain ⟨value, reads⟩ := reads
  choose answer asked using later
  exact ⟨_, reads.bind answer asked⟩

theorem Steady.exists_reads_bytesOf (steady : desk.Steady) (artifact : Path) :
    ∃ answer, Reads (desk.bytesOf artifact) answer := by
  refine exists_reads_bind (steady.isFile artifact) fun found => ?_
  cases found with
  | true => exact steady.read artifact
  | false => exact ⟨_, reads_pure _⟩

theorem Steady.exists_reads_notes (steady : desk.Steady) (events : List Event) :
    ∃ answer, Reads (events.forM desk.note) answer := by
  induction events with
  | nil => exact ⟨_, reads_pure _⟩
  | cons event rest inductionHypothesis =>
    rw [List.forM_eq_forM, List.forM_cons, ← List.forM_eq_forM]
    exact exists_reads_bind ⟨_, steady.note event⟩ fun _ => inductionHypothesis

theorem Steady.exists_reads_analyzeBytes (steady : desk.Steady) (source : Source) (window : Nat)
    (bytes : List UInt8) : ∃ answer, Reads (desk.analyzeBytes source window bytes) answer := by
  rw [analyzeBytes]
  cases Artifact.scan source.artifact bytes with
  | error failure => exact ⟨_, reads_pure _⟩
  | ok scan =>
    refine exists_reads_bind (steady.exists_reads_notes scan.events) fun _ => ?_
    dsimp only
    split
    · exact exists_reads_bind ⟨_, steady.note _⟩ fun _ => ⟨_, reads_pure _⟩
    · exact ⟨_, reads_pure _⟩

/-- An analysis at a steady desk leaves the desk as it was. -/
theorem Steady.run_analyze (steady : desk.Steady) (source : Source) (window : Nat) (state : σ) :
    (desk.analyze source window).run state = (desk.alone window state source, state) := by
  have asked : ∃ answer, Reads (desk.analyze source window) answer := by
    refine exists_reads_bind (steady.exists_reads_bytesOf source.artifact) fun read => ?_
    cases read with
    | error failure => exact ⟨_, reads_pure _⟩
    | ok bytes => exact steady.exists_reads_analyzeBytes source window bytes
  obtain ⟨answer, reads⟩ := asked
  rw [alone, reads state]

/-- The series of a source that can be analysed by itself. -/
def seriesAlone? (desk : Desk (StateM σ)) (window : Nat) (state : σ) (source : Source) :
    Option Trend.Series :=
  match desk.alone window state source with
  | .ok analysis => some analysis.series
  | .error _ => none

/-- A source that cannot be analysed by itself, with its failure. -/
def skippedAlone? (desk : Desk (StateM σ)) (window : Nat) (state : σ) (source : Source) :
    Option Skipped :=
  match desk.alone window state source with
  | .ok _ => none
  | .error failure => some ⟨source, failure⟩

/-- At a steady desk sources are sorted by what they come to alone. -/
theorem Steady.eq_of_sorts (steady : desk.Steady)
    (sorts : desk.Sorts window state sources series skipped final) :
    final = state ∧ series = sources.filterMap (desk.seriesAlone? window state)
      ∧ skipped = sources.filterMap (desk.skippedAlone? window state) := by
  induction sorts with
  | nil => exact ⟨rfl, rfl, rfl⟩
  | @charted state _ _ source _ _ _ _ analyzed _ inductionHypothesis =>
    rw [steady.run_analyze source window state, Prod.mk.injEq] at analyzed
    obtain ⟨alone, rfl⟩ := analyzed
    obtain ⟨rfl, rfl, rfl⟩ := inductionHypothesis
    refine ⟨rfl, ?_, ?_⟩
    · rw [List.filterMap_cons_some (by rw [seriesAlone?, alone])]
    · rw [List.filterMap_cons_none (by rw [skippedAlone?, alone])]
  | @leftOut state _ _ _ source _ _ _ _ refused noted _ inductionHypothesis =>
    rw [steady.run_analyze source window state, Prod.mk.injEq] at refused
    obtain ⟨alone, rfl⟩ := refused
    rw [steady.note _ state, Prod.mk.injEq] at noted
    obtain ⟨-, rfl⟩ := noted
    obtain ⟨rfl, rfl, rfl⟩ := inductionHypothesis
    refine ⟨rfl, ?_, ?_⟩
    · rw [List.filterMap_cons_none (by rw [seriesAlone?, alone])]
    · rw [List.filterMap_cons_some (by rw [skippedAlone?, alone])]

/-- What is stored in memory does not change when it is read. -/
theorem steady_ofArchive : ofArchive.Steady where
  isFile _ := ⟨_, fun _ => rfl⟩
  read _ := ⟨_, fun _ => rfl⟩
  note _ := fun _ => rfl

/-- Neither do the files of a machine. -/
theorem steady_fileTree : (silent Storage.FileTree.storage).Steady where
  isFile _ := ⟨_, fun _ => rfl⟩
  read _ := ⟨_, fun _ => rfl⟩
  note _ := fun _ => rfl

/-! ## Comparisons and analyses alone -/

/-- Whether a source can be analysed by itself. -/
def Usable (desk : Desk (StateM σ)) (window : Nat) (state : σ) (source : Source) : Prop :=
  ∃ analysis, desk.alone window state source = .ok analysis

theorem filterMap_seriesAlone?_eq_nil_iff :
    sources.filterMap (desk.seriesAlone? window state) = []
      ↔ ∀ source ∈ sources, ¬ desk.Usable window state source := by
  rw [List.filterMap_eq_nil_iff]
  refine forall₂_congr fun source _ => ?_
  rw [seriesAlone?, Usable]
  cases desk.alone window state source with
  | ok analysis => simp
  | error failure => simp

/-- Comparisons at a desk, told by what their sources come to alone. -/
structure ComparesAlone (desk : Desk (StateM σ)) (window : Nat) (state : σ) : Prop where
  /-- Without a usable source a comparison fails for want of data. Else each source is in
  its place with what it comes to alone. -/
  outcome : ∀ sources, ∃ result, (desk.compare sources window).run state = (result, state)
    ∧ match result with
      | .error failure => failure.kind = .dataFormat
        ∧ ∀ source ∈ sources, ¬ desk.Usable window state source
      | .ok comparison => (∃ source ∈ sources, desk.Usable window state source)
        ∧ comparison.content.series = sources.filterMap (desk.seriesAlone? window state)
        ∧ comparison.skipped = sources.filterMap (desk.skippedAlone? window state)
        ∧ comparison.content.series.length + comparison.skipped.length = sources.length
  /-- Two lists with usable sources are compared at once as they are one by one. -/
  append : ∀ left right, (∃ source ∈ left, desk.Usable window state source) →
    (∃ source ∈ right, desk.Usable window state source) →
    ∃ first second, (desk.compare left window).run state = (.ok first, state)
      ∧ (desk.compare right window).run state = (.ok second, state)
      ∧ (desk.compare (left ++ right) window).run state
        = (.ok ⟨.ofSeries (first.content.series ++ second.content.series),
            first.skipped ++ second.skipped⟩, state)

/-- A comparison at a steady desk, told by what its sources come to alone. -/
theorem Steady.run_compare (steady : desk.Steady) (positive : 0 < window) (sources : List Source)
    (state : σ) :
    (desk.compare sources window).run state =
      (if sources.filterMap (desk.seriesAlone? window state) = [] then
        .error (.nothingToCompare sources.length
          (sources.filterMap (desk.skippedAlone? window state)).length)
      else
        .ok ⟨.ofSeries (sources.filterMap (desk.seriesAlone? window state)),
          sources.filterMap (desk.skippedAlone? window state)⟩, state) := by
  obtain ⟨series, skipped, final, sorts⟩ := desk.exists_sorts window sources state
  obtain ⟨rfl, rfl, rfl⟩ := steady.eq_of_sorts sorts
  exact sorts.compare positive

theorem Steady.run_compare_of_usable (steady : desk.Steady) (positive : 0 < window)
    (usable : ∃ source ∈ sources, desk.Usable window state source) :
    (desk.compare sources window).run state =
      (.ok ⟨.ofSeries (sources.filterMap (desk.seriesAlone? window state)),
        sources.filterMap (desk.skippedAlone? window state)⟩, state) := by
  obtain ⟨source, member, usable⟩ := usable
  have some : sources.filterMap (desk.seriesAlone? window state) ≠ [] := fun nothing =>
    filterMap_seriesAlone?_eq_nil_iff.mp nothing source member usable
  rw [steady.run_compare positive, if_neg some]

/-- At a steady desk what is compared is what the sources come to alone. -/
theorem Steady.comparesAlone (steady : desk.Steady) (positive : 0 < window) (state : σ) :
    desk.ComparesAlone window state where
  outcome := by
    intro sources
    by_cases usable : ∃ source ∈ sources, desk.Usable window state source
    · refine ⟨.ok _, steady.run_compare_of_usable positive usable, usable, rfl, rfl, ?_⟩
      obtain ⟨series, skipped, final, sorts⟩ := desk.exists_sorts window sources state
      obtain ⟨-, rfl, rfl⟩ := steady.eq_of_sorts sorts
      exact sorts.length_add_length
    · have none : ∀ source ∈ sources, ¬ desk.Usable window state source := by simpa using usable
      have compared := steady.run_compare positive sources state
      rw [if_pos (filterMap_seriesAlone?_eq_nil_iff.mpr none)] at compared
      exact ⟨_, compared, rfl, none⟩
  append := by
    intro left right usableLeft usableRight
    have usable : ∃ source ∈ left ++ right, desk.Usable window state source := by
      obtain ⟨source, member, usable⟩ := usableLeft
      exact ⟨source, List.mem_append_left _ member, usable⟩
    refine ⟨_, _, steady.run_compare_of_usable positive usableLeft,
      steady.run_compare_of_usable positive usableRight, ?_⟩
    rw [steady.run_compare_of_usable positive usable, List.filterMap_append, List.filterMap_append]
    rfl

/-- Without a window nothing is compared. Else every source is charted or left out, in the
order of the sources, by what its analysis comes to when it is its turn; only where nothing
is charted the comparison fails. At a steady desk every source comes to what it comes to
alone. -/
theorem compare_partition (desk : Desk (StateM σ)) :
    (∀ sources state, ∃ failure, failure.kind = .configuration
      ∧ (desk.compare sources 0).run state = (.error failure, state))
    ∧ ∀ window, 0 < window →
      (∀ sources state, ∃ series skipped final,
        desk.Sorts window state sources series skipped final
        ∧ series.length + skipped.length = sources.length
        ∧ (series = [] → ∃ failure, failure.kind = .dataFormat
          ∧ (desk.compare sources window).run state = (.error failure, final))
        ∧ (series ≠ [] →
          (desk.compare sources window).run state = (.ok ⟨.ofSeries series, skipped⟩, final)))
      ∧ (desk.Steady → ∀ state, desk.ComparesAlone window state) := by
  refine ⟨fun sources state => ⟨.zeroWindow, rfl, rfl⟩, fun window positive => ⟨?_, ?_⟩⟩
  · intro sources state
    obtain ⟨series, skipped, final, sorts⟩ := desk.exists_sorts window sources state
    refine ⟨series, skipped, final, sorts, sorts.length_add_length, fun nothing => ?_, fun some => ?_⟩
    · exact ⟨_, rfl, by rw [sorts.compare positive, if_pos nothing]⟩
    · rw [sorts.compare positive, if_neg some]
  · intro steady state
    exact steady.comparesAlone positive state

/-- A table, the same table again, something that is no table and nothing at all, compared
in two parts. -/
theorem compare_partition_of_two_parts :
    let ascii (text : String) : List UInt8 := text.toList.map fun letter => .ofNat letter.toNat
    let archive := Archive.ofFiles
      [(⟨"a.csv"⟩, ascii "round,difficulty\n1,2\n"), (⟨"b.csv"⟩, ascii "round,difficulty\nx,y\n")]
    let table := Source.ofFile ⟨"a.csv"⟩
    let broken := Source.ofFile ⟨"b.csv"⟩
    let missing := Source.ofFile ⟨"c.csv"⟩
    0 < 2 ∧ ofArchive.Steady ∧ ofArchive.Usable 2 archive table
    ∧ ∃ first second, (ofArchive.compare [broken, table] 2).run archive = (.ok first, archive)
      ∧ (ofArchive.compare [table, missing] 2).run archive = (.ok second, archive)
      ∧ (ofArchive.compare [broken, table, table, missing] 2).run archive
        = (.ok ⟨.ofSeries (first.content.series ++ second.content.series),
            first.skipped ++ second.skipped⟩, archive) := by
  intro ascii archive table broken missing
  have usable : ofArchive.Usable 2 archive table := by
    have analyzed : (ofArchive.alone 2 archive table).toBool = true := by decide +kernel
    rw [Usable]
    cases came : ofArchive.alone 2 archive table with
    | ok analysis => exact ⟨analysis, rfl⟩
    | error failure =>
      rw [came] at analyzed
      cases analyzed
  obtain ⟨-, compared⟩ := compare_partition ofArchive
  obtain ⟨-, alone⟩ := compared 2 (by decide)
  exact ⟨by decide, steady_ofArchive, usable,
    (alone steady_ofArchive archive).append [broken, table] [table, missing]
      ⟨table, by simp, usable⟩ ⟨table, by simp, usable⟩⟩

end Desk

end DeltaStudy.Study
