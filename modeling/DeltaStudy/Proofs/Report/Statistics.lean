import DeltaStudy.Proofs.Artifact.Faults
import DeltaStudy.Proofs.Numeral.Texts
import DeltaStudy.Proofs.Study.Analyses
import DeltaStudy.Report.Artifact

/-!
# Invalid rows in a report

A report on an artifact ends with the first of its invalid rows, a line for each of them. The
messages stand there as they are: they are not indented as failures are in a summary. So what
a message quotes from its row can break the line, and what comes behind the line feed looks
like a line of the report. The rest of the report has nothing from the rows but numbers.
-/

namespace DeltaStudy.Report

open Artifact (Measurements Quotes RowError)
open Study (Analysis Source)
open Text (Unbroken brokenLines linesOf)

/-! ## Lines in front of the invalid rows -/

/-- The start of the line in front of the invalid rows. -/
def skippedHeading : String := "Rows skipped: "

/-- A line that does not tell how many rows were skipped. -/
structure IsFrontLine (line : String) : Prop where
  unbroken : Unbroken line
  other : ¬ skippedHeading.toList <+: line.toList

/-- A start of a line that tells it apart from the one with the number. -/
def Opens (front : String) : Prop :=
  Unbroken front ∧ ¬ skippedHeading.toList <+: front.toList
    ∧ ¬ front.toList <+: skippedHeading.toList

instance (front : String) : Decidable (Opens front) :=
  inferInstanceAs (Decidable (_ ∧ _ ∧ _))

theorem Opens.isFrontLine {line : String} (opens : Opens line) : IsFrontLine line :=
  ⟨opens.1, opens.2.1⟩

theorem Opens.append {front rest : String} (opens : Opens front) (unbroken : Unbroken rest) :
    IsFrontLine (front ++ rest) where
  unbroken := opens.1.append unbroken
  other := by
    intro isPrefix
    rw [String.toList_append] at isPrefix
    exact (List.prefix_or_prefix_of_prefix isPrefix (List.prefix_append _ _)).elim
      opens.2.1 opens.2.2

section FrontLines

variable (measurements : Measurements) (figures : Trend.Statistics)

theorem isFrontLine_miningTimeLines :
    ∀ line ∈ miningTimeLines measurements figures, IsFrontLine line := by
  have seconds (value : Float) : Unbroken (Numeral.fixed 3 value ++ " sec") :=
    (Numeral.unbroken_fixed 3 value).append (by decide)
  rw [miningTimeLines]
  split
  · refine List.forall_mem_cons.mpr ⟨?_, List.forall_mem_singleton.mpr ?_⟩
    · rw [String.append_assoc]
      exact Opens.append (by decide) (seconds _)
    · split
      · rw [String.append_assoc]
        exact Opens.append (by decide) (seconds _)
      · exact Opens.isFrontLine (by decide)
  · exact List.forall_mem_singleton.mpr (Opens.isFrontLine (by decide))

theorem isFrontLine_duplicateLines :
    ∀ line ∈ duplicateLines measurements, IsFrontLine line := by
  rw [duplicateLines]
  split
  · exact List.forall_mem_nil _
  · exact List.forall_mem_singleton.mpr
      (Opens.append (by decide) (Numeral.unbroken_decimalText _))

theorem rowErrorLines_none : rowErrorLines { measurements with rowErrors := [] } = [] :=
  rfl

/-- The lines of a report without invalid rows. -/
def frontLines (window : Nat) : List String :=
  statisticsLines { measurements with rowErrors := [] } (some figures) window

theorem statisticsLines_eq (window : Nat) :
    statisticsLines measurements (some figures) window
      = frontLines measurements figures window ++ rowErrorLines measurements := by
  rw [frontLines, statisticsLines, statisticsLines, rowErrorLines_none, List.append_nil,
    ← List.append_assoc]
  rfl

theorem isFrontLine_frontLines (unbroken : Unbroken measurements.artifact.text) (window : Nat) :
    ∀ line ∈ frontLines measurements figures window, IsFrontLine line := by
  rw [frontLines, statisticsLines, rowErrorLines_none]
  simp only [List.forall_mem_append]
  refine ⟨?_, ⟨⟨⟨?_, isFrontLine_miningTimeLines _ figures⟩, ?_⟩,
    isFrontLine_duplicateLines _⟩, List.forall_mem_nil _⟩
  · refine List.forall_mem_cons.mpr
      ⟨Opens.isFrontLine (by decide), List.forall_mem_singleton.mpr ?_⟩
    exact Opens.append (by decide) unbroken
  · refine List.forall_mem_cons.mpr ⟨?_, List.forall_mem_singleton.mpr ?_⟩
    · exact Opens.append (by decide) (Numeral.unbroken_decimalText _)
    · exact Opens.append (by decide) (Numeral.unbroken_fixed 2 _)
  · exact List.forall_mem_singleton.mpr
      (Opens.append (by decide) (Numeral.unbroken_decimalText _))

end FrontLines

/-! ## Lines for the invalid rows -/

/-- The lines that list the first five errors, one line for each. -/
def errorLines (errors : List RowError) : List String :=
  (errors.take 5).map fun error =>
    "  line " ++ Numeral.decimalText error.line ++ ": " ++ error.message

/-- Line feeds in the line for an error are those of its message. -/
theorem count_rowErrorLine (error : RowError) :
    (rowErrorLine error).toList.count '\n' = error.message.toList.count '\n' := by
  have front : Unbroken ("  line " ++ Numeral.decimalText error.line ++ ": ") :=
    (Unbroken.append (by decide) (Numeral.unbroken_decimalText _)).append (by decide)
  rw [rowErrorLine, String.toList_append, List.count_append, List.count_eq_zero.mpr front,
    Nat.zero_add]

theorem unbroken_rowErrorLine_iff {error : RowError} :
    Unbroken (rowErrorLine error) ↔ Unbroken error.message := by
  rw [Unbroken, Unbroken, ← List.count_eq_zero, count_rowErrorLine, List.count_eq_zero]

theorem flatMap_errorLines_eq_iff (errors : List RowError) :
    (errorLines errors).flatMap brokenLines = errorLines errors
      ↔ ∀ error ∈ errors.take 5, Unbroken error.message := by
  rw [Text.flatMap_brokenLines_eq_iff, errorLines, List.forall_mem_map]
  exact forall₂_congr fun error _ => unbroken_rowErrorLine_iff

theorem length_flatMap_errorLines (errors : List RowError) :
    ((errorLines errors).flatMap brokenLines).length
      = ((errors.take 5).map fun error => error.message.toList.count '\n' + 1).sum := by
  rw [List.length_flatMap, errorLines, List.map_map]
  refine congrArg List.sum (List.map_congr_left fun error _ => ?_)
  rw [Function.comp_apply, Text.length_brokenLines, ← count_rowErrorLine]
  rfl

/-! ## The report -/

/-- What a report tells about invalid rows, with the lines in front of their number and behind. -/
structure TellsErrors (columns : Artifact.Columns) (bytes : List UInt8) (errors : List RowError)
    (front back : List String) : Prop where
  /-- No line in front is taken for the one with the number. -/
  front : ∀ line ∈ front, ¬ "Rows skipped: ".toList <+: line.toList
  /-- A message takes one line more than it has line feeds. -/
  length : back.length = ((errors.take 5).map fun error => error.message.toList.count '\n' + 1).sum
  /-- Each of the first five errors has its line exactly if none of them quotes a line feed. -/
  listed_iff : back = errorLines errors ↔
    ∀ error ∈ errors.take 5, ∀ text, Quotes columns bytes error text → Unbroken text
  /-- Without quotes in the artifact no error quotes a line feed. -/
  listed_of_unquoted : Artifact.TableMachine.quote ∉ bytes → back = errorLines errors

theorem tellsErrors_scanOf (columns : Artifact.Columns) (bytes : List UInt8) {front : List String}
    (others : ∀ line ∈ front, ¬ "Rows skipped: ".toList <+: line.toList) :
    TellsErrors columns bytes (Artifact.scanOf columns bytes).errors front
      ((errorLines (Artifact.scanOf columns bytes).errors).flatMap brokenLines) := by
  have listed := flatMap_errorLines_eq_iff (Artifact.scanOf columns bytes).errors
  have quoted : ∀ error ∈ (Artifact.scanOf columns bytes).errors.take 5,
      Unbroken error.message ↔ ∀ text, Quotes columns bytes error text → Unbroken text :=
    fun error member => Artifact.unbroken_message_iff_quotes (List.mem_of_mem_take member)
  have listed := listed.trans (forall₂_congr quoted)
  refine ⟨others, length_flatMap_errorLines _, listed, fun none => listed.mpr ?_⟩
  exact fun error _ text quotes => quotes.unbroken none

/-- The lines of a report that has invalid rows. -/
theorem linesOf_statistics {measurements : Measurements}
    (unbroken : Unbroken measurements.artifact.text) (invalid : measurements.rowErrors ≠ [])
    (figures : Trend.Statistics) (window : Nat) :
    linesOf (statistics measurements (some figures) window)
      = frontLines measurements figures window
        ++ ("Rows skipped: " ++ Numeral.decimalText measurements.rowErrors.length)
          :: (errorLines measurements.rowErrors).flatMap brokenLines := by
  have front := isFrontLine_frontLines measurements figures unbroken window
  have number : Unbroken ("Rows skipped: "
      ++ Numeral.decimalText measurements.rowErrors.length) :=
    .append (by decide) (Numeral.unbroken_decimalText _)
  rw [statistics, Text.linesOf_written, statisticsLines_eq, List.flatMap_append,
    Text.flatMap_brokenLines_of_unbroken fun line member => (front line member).unbroken,
    rowErrorLines, if_neg (by simpa using invalid), List.flatMap_cons,
    Text.brokenLines_of_unbroken number]
  rfl

/-- The lines of a report without invalid rows are those that were written. -/
theorem linesOf_statistics_valid {measurements : Measurements}
    (unbroken : Unbroken measurements.artifact.text) (figures : Trend.Statistics) (window : Nat) :
    linesOf (statistics { measurements with rowErrors := [] } (some figures) window)
      = frontLines measurements figures window := by
  have front := isFrontLine_frontLines measurements figures unbroken window
  rw [statistics, Text.linesOf_written]
  exact Text.flatMap_brokenLines_of_unbroken fun line member => (front line member).unbroken

/-- The lines in front of the invalid rows are those of the same report without them. Behind
are the first five of them, a line for each as long as no field with a line feed in it is
quoted there. -/
theorem statistics_errors {source : Source} {window : Nat} {bytes : List UInt8}
    {analysis : Analysis} (analysed : Analysis.ofBytes source window bytes = .ok analysis)
    (unbroken : Unbroken source.artifact.text)
    (invalid : analysis.measurements.rowErrors ≠ []) (shown : Nat) :
    ∃ front back, linesOf (statistics analysis.measurements analysis.statistics shown)
        = front ++ ("Rows skipped: "
          ++ Numeral.decimalText analysis.measurements.rowErrors.length) :: back
      ∧ front = linesOf (statistics { analysis.measurements with rowErrors := [] }
          analysis.statistics shown)
      ∧ TellsErrors analysis.measurements.columns bytes analysis.measurements.rowErrors
          front back := by
  obtain ⟨measured, derived⟩ := Study.derived_of_ofBytes analysed
  obtain ⟨figures, known, -⟩ := derived.counted
  obtain ⟨measurements, series, statistics⟩ := analysis
  obtain ⟨header, columns, -, -, -, rfl⟩ := Measurements.ofBytes_eq_ok_iff.mp measured
  cases known
  refine ⟨_, _, linesOf_statistics unbroken invalid figures shown,
    (linesOf_statistics_valid unbroken figures shown).symm, ?_⟩
  refine tellsErrors_scanOf columns bytes fun line member => ?_
  exact (isFrontLine_frontLines _ figures unbroken shown line member).other

/-- Tables with the three columns in their order are analysed once a row is valid. -/
theorem exists_analysis_of_header {bytes : List UInt8} {errors : List RowError}
    (readable : Artifact.headerOf? bytes = some ["round", "mining_time", "difficulty"])
    (nonempty : (Artifact.scanOf ⟨0, some 1, 2, false⟩ bytes).valid ≠ [])
    (set : (Artifact.scanOf ⟨0, some 1, 2, false⟩ bytes).errors = errors) :
    ∃ analysis, Analysis.ofBytes (Source.ofFile ⟨"a.csv"⟩) 2 bytes = .ok analysis
      ∧ analysis.measurements.artifact = ⟨"a.csv"⟩ ∧ analysis.measurements.rowErrors = errors := by
  have resolved : Artifact.resolveColumns ⟨"a.csv"⟩ ["round", "mining_time", "difficulty"]
      = .ok ⟨0, some 1, 2, false⟩ := by decide +kernel
  obtain ⟨analysis, analysed, account⟩ := Analysis.exists_ofBytes (Source.ofFile ⟨"a.csv"⟩)
    (show 0 < 2 by decide) readable resolved nonempty
  refine ⟨analysis, analysed, ?_, ?_⟩
  · rw [account]
    rfl
  · rw [account, Measurements.rowErrors_account, set]

/-- A table with a row that is set aside, and no quotes. -/
theorem statistics_errors_unquoted :
    let ascii (text : String) : List UInt8 := text.toList.map fun letter => .ofNat letter.toNat
    let bytes := ascii "round,mining_time,difficulty\n1,1000,0.5\nx,1,1\n"
    ∃ analysis, Analysis.ofBytes (Source.ofFile ⟨"a.csv"⟩) 2 bytes = .ok analysis
      ∧ Unbroken "a.csv" ∧ analysis.measurements.rowErrors ≠ []
      ∧ ∃ front, linesOf (statistics analysis.measurements analysis.statistics 2) = front ++
        [ "Rows skipped: 1"
        , "  line 3: Invalid `round` 'x' (expected a non-negative integer)." ] := by
  intro ascii bytes
  have set : (Artifact.scanOf ⟨0, some 1, 2, false⟩ bytes).errors
      = [⟨3, "Invalid `round` 'x' (expected a non-negative integer)."⟩] := by decide +kernel
  obtain ⟨analysis, analysed, -, errors⟩ :=
    exists_analysis_of_header (by decide +kernel) (by decide +kernel) set
  have unbroken : Unbroken "a.csv" := by decide
  have invalid : analysis.measurements.rowErrors ≠ [] := by
    rw [errors]
    exact List.cons_ne_nil _ _
  obtain ⟨front, back, lines, -, told⟩ := statistics_errors analysed unbroken invalid 2
  have unquoted : Artifact.TableMachine.quote ∉ bytes := by decide +kernel
  refine ⟨analysis, analysed, unbroken, invalid, front, ?_⟩
  rw [lines, told.listed_of_unquoted unquoted, errors]
  rfl

/-- A field with a line feed in it adds a line to the report that says something else. -/
theorem statistics_errors_forged :
    let ascii (text : String) : List UInt8 := text.toList.map fun letter => .ofNat letter.toNat
    let bytes :=
      ascii "round,mining_time,difficulty\n1,1000,0.5\n\"x\nRows skipped: 0\",1,1\n"
    ∃ analysis, Analysis.ofBytes (Source.ofFile ⟨"a.csv"⟩) 2 bytes = .ok analysis
      ∧ analysis.measurements.rowErrors
        = [⟨3, "Invalid `round` 'x\nRows skipped: 0' (expected a non-negative integer)."⟩]
      ∧ (∃ front, linesOf (statistics analysis.measurements analysis.statistics 2) = front ++
        [ "Rows skipped: 1", "  line 3: Invalid `round` 'x"
        , "Rows skipped: 0' (expected a non-negative integer)." ])
      ∧ ¬ ∃ front, linesOf (statistics analysis.measurements analysis.statistics 2) = front ++
        "Rows skipped: 1" :: errorLines analysis.measurements.rowErrors := by
  intro ascii bytes
  have set : (Artifact.scanOf ⟨0, some 1, 2, false⟩ bytes).errors
      = [⟨3, "Invalid `round` 'x\nRows skipped: 0' (expected a non-negative integer)."⟩] := by
    decide +kernel
  obtain ⟨analysis, analysed, artifact, errors⟩ :=
    exists_analysis_of_header (by decide +kernel) (by decide +kernel) set
  have unbroken : Unbroken analysis.measurements.artifact.text := by
    rw [artifact]
    decide
  have invalid : analysis.measurements.rowErrors ≠ [] := by
    rw [errors]
    exact List.cons_ne_nil _ _
  obtain ⟨figures, known, -⟩ := (Study.derived_of_ofBytes analysed).2.counted
  have lines := linesOf_statistics unbroken invalid figures 2
  rw [← known] at lines
  refine ⟨analysis, analysed, errors, ⟨frontLines analysis.measurements figures 2, ?_⟩, ?_⟩
  · rw [lines, errors]
    congr 1
  · -- No line that is read has a line feed in it, so none of them is the one for the error.
    rintro ⟨front, same⟩
    have member : rowErrorLine
        ⟨3, "Invalid `round` 'x\nRows skipped: 0' (expected a non-negative integer)."⟩
        ∈ linesOf (statistics analysis.measurements analysis.statistics 2) := by
      rw [same, errors]
      exact List.mem_append_right _ (by decide +kernel)
    exact absurd (Text.unbroken_of_mem_linesOf member) (by decide)

end DeltaStudy.Report
