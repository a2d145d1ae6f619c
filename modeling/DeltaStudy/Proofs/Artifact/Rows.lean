import DeltaStudy.Artifact.Measurements
import DeltaStudy.Proofs.Artifact.Columns
import DeltaStudy.Proofs.Failure

/-!
# How rows are judged

A row is judged field by field, and by itself. Every row of a table is either valid or
set aside, so the rows are as many as the measurements and the row errors together, and
the lines of the errors are those of the rows that were set aside, in their order.
-/

namespace DeltaStudy.Artifact

/-! ## One row -/

theorem fieldText_eq_ok_iff {row : List String} {column : Nat} {field : Field} {text : String} :
    fieldText row column field = .ok text ↔ row[column]? = some text ∧ text ≠ "" := by
  rw [fieldText]
  cases row[column]? with
  | none => simp
  | some found =>
    by_cases blank : found = ""
    · simp only [if_pos blank, reduceCtorEq, Option.some.injEq, false_iff]
      rintro ⟨rfl, written⟩
      exact written blank
    · simp only [if_neg blank, Except.ok.injEq, Option.some.injEq]
      exact ⟨fun same => ⟨same, same ▸ blank⟩, And.left⟩

theorem readValue_eq_ok_iff {field : Field} {text : String} {value : Float} :
    readValue field text = .ok value ↔
      Numeral.readFloat? text = some value ∧ value.isFinite = true := by
  rw [readValue]
  cases Numeral.readFloat? text with
  | none => simp
  | some read =>
    by_cases finite : read.isFinite = true
    · simp only [if_pos finite, Except.ok.injEq, Option.some.injEq]
      exact ⟨fun same => ⟨same, same ▸ finite⟩, And.left⟩
    · simp only [if_neg finite, reduceCtorEq, Option.some.injEq, false_iff]
      rintro ⟨rfl, isFinite⟩
      exact finite isFinite

/-- What a column of a row says about a field, if it has a text that can be read. -/
def Says {α : Type} (row : List String) (column : Nat) (field : Field)
    (read : String → Except RowFault α) (value : α) : Prop :=
  ∃ text, fieldText row column field = .ok text ∧ read text = .ok value

/-- A row is valid if each of its fields is. Without a column the mining time is zero. -/
theorem readRow_eq_ok_iff {columns : Columns} {row : List String} {measurement : Measurement} :
    readRow columns row = .ok measurement ↔
      Says row columns.round .round readRound measurement.round
      ∧ Says row columns.difficulty .difficulty (readValue .difficulty) measurement.difficulty
      ∧ match columns.miningTime with
        | some column =>
          Says row column .miningTime (readValue .miningTime) measurement.miningTime
        | none => measurement.miningTime = 0 := by
  obtain ⟨round, miningTime, difficulty⟩ := measurement
  unfold readRow Says
  simp only [bind_eq_ok_iff]
  cases columns.miningTime with
  | some column =>
    simp only [bind_eq_ok_iff, pure, Except.pure, Except.ok.injEq, Measurement.mk.injEq]
    constructor
    · rintro ⟨roundText, rounded, _, readRound, text, found, _, read, timeText, timed, _, readTime,
        rfl, rfl, rfl⟩
      exact ⟨⟨roundText, rounded, readRound⟩, ⟨text, found, read⟩, timeText, timed, readTime⟩
    · rintro ⟨⟨roundText, rounded, readRound⟩, ⟨text, found, read⟩, timeText, timed, readTime⟩
      exact ⟨roundText, rounded, _, readRound, text, found, _, read, timeText, timed, _, readTime,
        rfl, rfl, rfl⟩
  | none =>
    simp only [bind_eq_ok_iff, pure, Except.pure, Except.ok.injEq, Measurement.mk.injEq]
    constructor
    · rintro ⟨roundText, rounded, _, readRound, text, found, _, read, _, rfl, rfl, rfl, rfl⟩
      exact ⟨⟨roundText, rounded, readRound⟩, ⟨text, found, read⟩, rfl⟩
    · rintro ⟨⟨roundText, rounded, readRound⟩, ⟨text, found, read⟩, rfl⟩
      exact ⟨roundText, rounded, _, readRound, text, found, _, read, _, rfl, rfl, rfl, rfl⟩

/-- A valid record is text, and the text is a valid row. -/
theorem readRecord_eq_ok_iff {columns : Columns} {record : List (List UInt8)}
    {measurement : Measurement} :
    readRecord columns record = .ok measurement ↔
      ∃ row, textFields? record = some row ∧ readRow columns row = .ok measurement := by
  rw [readRecord]
  cases textFields? record with
  | none => simp
  | some row => simp

/-- The numbers of a measurement are finite. -/
structure Measurement.Finite (measurement : Measurement) : Prop where
  difficulty : measurement.difficulty.isFinite = true
  miningTime : measurement.miningTime.isFinite = true

theorem finite_of_readRecord {columns : Columns} {record : List (List UInt8)}
    {measurement : Measurement} (valid : readRecord columns record = .ok measurement) :
    measurement.Finite := by
  obtain ⟨row, -, valid⟩ := readRecord_eq_ok_iff.mp valid
  obtain ⟨-, ⟨_, -, difficulty⟩, miningTime⟩ := readRow_eq_ok_iff.mp valid
  refine ⟨(readValue_eq_ok_iff.mp difficulty).2, ?_⟩
  cases timed : columns.miningTime with
  | some column =>
    rw [timed] at miningTime
    obtain ⟨_, -, read⟩ := miningTime
    exact (readValue_eq_ok_iff.mp read).2
  | none =>
    rw [timed] at miningTime
    rw [show measurement.miningTime = 0 from miningTime]
    decide +kernel

theorem miningTime_of_readRecord {columns : Columns} {record : List (List UInt8)}
    {measurement : Measurement} (valid : readRecord columns record = .ok measurement)
    (untimed : columns.miningTime = none) : measurement.miningTime = 0 := by
  obtain ⟨row, -, valid⟩ := readRecord_eq_ok_iff.mp valid
  obtain ⟨-, -, miningTime⟩ := readRow_eq_ok_iff.mp valid
  rw [untimed] at miningTime
  exact miningTime

/-! ## All rows -/

namespace Scan

variable {scan : Scan}

/-- The error of a row that was set aside, by its index. -/
def errorOf? : Except RowFault Measurement × Nat → Option RowError
  | (.error fault, index) => some ⟨index + 2, fault.message⟩
  | (.ok _, _) => none

theorem errors_eq (scan : Scan) : scan.errors = scan.rows.zipIdx.filterMap errorOf? := by
  unfold errors
  congr 1
  funext ⟨row, index⟩
  cases row <;> rfl

theorem mem_valid_iff {measurement : Measurement} :
    measurement ∈ scan.valid ↔ .ok measurement ∈ scan.rows := by
  rw [valid, List.mem_filterMap]
  constructor
  · rintro ⟨row, member, valued⟩
    cases row with
    | ok value =>
      cases valued
      exact member
    | error fault => cases valued
  · intro member
    exact ⟨_, member, rfl⟩

/-- Every row is valid or set aside. -/
theorem length_valid_add_length_errors (scan : Scan) :
    scan.valid.length + scan.errors.length = scan.rows.length := by
  rw [valid, errors_eq]
  generalize scan.rows = rows
  suffices counted : ∀ start, (rows.filterMap Except.toOption).length
      + ((rows.zipIdx start).filterMap errorOf?).length = rows.length from counted 0
  induction rows with
  | nil => intro start; rfl
  | cons row rest inductionHypothesis =>
    intro start
    have later := inductionHypothesis (start + 1)
    cases row with
    | ok measurement =>
      simp only [List.zipIdx_cons, List.filterMap_cons, Except.toOption, errorOf?,
        List.length_cons] at later ⊢
      omega
    | error fault =>
      simp only [List.zipIdx_cons, List.filterMap_cons, Except.toOption, errorOf?,
        List.length_cons] at later ⊢
      omega

theorem errorOf?_line {row : Except RowFault Measurement × Nat} {error : RowError}
    (set : errorOf? row = some error) : error.line = row.2 + 2 := by
  obtain ⟨row, index⟩ := row
  cases row with
  | ok measurement => cases set
  | error fault =>
    cases set
    rfl

/-- The errors are in the order of the rows. -/
theorem errors_ascending (scan : Scan) :
    scan.errors.Pairwise fun earlier later => earlier.line < later.line := by
  have indices : scan.rows.zipIdx.Pairwise fun earlier later => earlier.2 < later.2 := by
    rw [← List.pairwise_map (f := Prod.snd) (R := (· < ·)), List.zipIdx_map_snd]
    exact List.pairwise_lt_range'
  rw [errors_eq, List.pairwise_filterMap]
  refine indices.imp fun {earlier later} less error set other set' => ?_
  rw [errorOf?_line set, errorOf?_line set']
  omega

/-- The line of an error is that of a row. -/
theorem errors_within (scan : Scan) :
    ∀ error ∈ scan.errors, 2 ≤ error.line ∧ error.line ≤ scan.rows.length + 1 := by
  intro error member
  rw [errors_eq, List.mem_filterMap] at member
  obtain ⟨⟨row, index⟩, member, set⟩ := member
  have bound := (List.mem_zipIdx member).2.1
  rw [errorOf?_line set]
  omega

end Scan

end DeltaStudy.Artifact
