import DeltaStudy.Proofs.Artifact.Merging
import DeltaStudy.Proofs.Artifact.Rows

/-!
# What is read from any bytes

Every byte string either has measurements, which account for each of its rows, or is
unusable for one of three reasons. Nothing is said here about which of two rows of one
round counts.
-/

namespace DeltaStudy.Artifact

/-- The header of a table, unless it is not text. A table without records has a header
without columns. -/
def headerOf? (bytes : List UInt8) : Option (List String) :=
  textFields? ((records bytes).head?.getD [])

/-- The records behind the header. -/
def rowsOf (bytes : List UInt8) : List (List (List UInt8)) :=
  (records bytes).tail

/-- The scan of a table for given columns. -/
def scanOf (columns : Columns) (bytes : List UInt8) : Scan :=
  ⟨columns, (rowsOf bytes).map (readRecord columns)⟩

namespace Measurements

/-- The measurements of a scan that has some. -/
def account (artifact : Path) (scan : Scan) : Measurements where
  artifact := artifact
  records := normalize scan.valid
  columns := scan.columns
  rowsRead := scan.rows.length
  duplicatesDropped := duplicates scan.valid
  rowErrors := scan.errors

theorem ofScan_eq (artifact : Path) (scan : Scan) :
    ofScan artifact scan =
      if scan.valid = [] then .error (.noUsableRows artifact scan.rows.length scan.errors.length)
      else .ok (account artifact scan) := by
  simp only [ofScan, List.isEmpty_iff, normalize_eq_nil_iff]
  rfl

/-- Measurements are read once the header and the columns are. -/
theorem ofBytes_eq (artifact : Path) (bytes : List UInt8) :
    ofBytes artifact bytes =
      match headerOf? bytes with
      | none => .error (.unreadableHeader artifact "the header is not UTF-8")
      | some header => match resolveColumns artifact header with
        | .error failure => .error failure
        | .ok columns => ofScan artifact (scanOf columns bytes) := by
  rw [ofBytes, scan, headerOf?]
  cases textFields? ((Artifact.records bytes).head?.getD []) with
  | none => rfl
  | some header =>
    simp only [bind, Except.bind, pure, Except.pure]
    cases resolveColumns artifact header <;> rfl

/-- Bytes have measurements if they have a header that can be resolved and a valid row. -/
theorem ofBytes_eq_ok_iff {artifact : Path} {bytes : List UInt8} {series : Measurements} :
    ofBytes artifact bytes = .ok series ↔
      ∃ header columns, headerOf? bytes = some header
        ∧ resolveColumns artifact header = .ok columns
        ∧ (scanOf columns bytes).valid ≠ [] ∧ account artifact (scanOf columns bytes) = series := by
  rw [ofBytes_eq]
  cases headerOf? bytes with
  | none => simp
  | some header =>
    cases resolved : resolveColumns artifact header with
    | error failure => simp [resolved]
    | ok columns =>
      by_cases nothing : (scanOf columns bytes).valid = []
      · simp [resolved, ofScan_eq, nothing]
      · simp [resolved, ofScan_eq, nothing]

end Measurements

/-! ## Accounting -/

/-- Why no measurements can be read from bytes. -/
inductive Unusable (artifact : Path) (bytes : List UInt8) : Prop where
  /-- The header is not text. -/
  | header (unreadable : headerOf? bytes = none)
  /-- The header has not the columns that are needed. -/
  | columns {header : List String} {failure : Failure} (readable : headerOf? bytes = some header)
      (unresolved : resolveColumns artifact header = .error failure)
  /-- No row is valid. -/
  | rows {header : List String} {columns : Columns} (readable : headerOf? bytes = some header)
      (resolved : resolveColumns artifact header = .ok columns)
      (invalid : ∀ row ∈ rowsOf bytes, ∀ measurement, readRecord columns row ≠ .ok measurement)

/-- What can be relied on in measurements that were read from bytes. -/
structure Measurements.Accounted (bytes : List UInt8) (series : Measurements) : Prop where
  /-- Every row was read. -/
  rowsRead_eq : series.rowsRead = (rowsOf bytes).length
  /-- Every row that was read is kept, a duplicate or set aside. -/
  parted : series.rowsRead
    = series.records.length + series.duplicatesDropped + series.rowErrors.length
  nonempty : series.records ≠ []
  ascending : series.records.Pairwise fun earlier later => earlier.round < later.round
  finite : ∀ measurement ∈ series.records, measurement.Finite
  lines_ascending : series.rowErrors.Pairwise fun earlier later => earlier.line < later.line
  lines_within : ∀ error ∈ series.rowErrors, 2 ≤ error.line ∧ error.line ≤ series.rowsRead + 1
  columns_apart : series.columns.used.Nodup
  columns_within : ∃ header, headerOf? bytes = some header
    ∧ ∀ column ∈ series.columns.used, column < header.length
  /-- Without a column for them mining times are zero. -/
  untimed : series.columns.miningTime = none →
    ∀ measurement ∈ series.records, measurement.miningTime = 0

theorem mem_valid_scanOf_iff {columns : Columns} {bytes : List UInt8} {measurement : Measurement} :
    measurement ∈ (scanOf columns bytes).valid ↔
      ∃ row ∈ rowsOf bytes, readRecord columns row = .ok measurement := by
  rw [Scan.mem_valid_iff, scanOf, List.mem_map]

/-- What is kept was read from a row. -/
theorem exists_row_of_mem_normalize {columns : Columns} {bytes : List UInt8}
    {measurement : Measurement} (kept : measurement ∈ normalize (scanOf columns bytes).valid) :
    ∃ row ∈ rowsOf bytes, readRecord columns row = .ok measurement :=
  mem_valid_scanOf_iff.mp (mem_normalize_iff.mp kept).mem

theorem accounted_of_resolved {artifact : Path} {bytes : List UInt8} {header : List String}
    {columns : Columns} (readable : headerOf? bytes = some header)
    (resolved : resolveColumns artifact header = .ok columns)
    (nonempty : (scanOf columns bytes).valid ≠ []) :
    (Measurements.account artifact (scanOf columns bytes)).Accounted bytes := by
  have settled := resolveColumns_eq_ok_iff.mp resolved
  have rows := (scanOf columns bytes).length_valid_add_length_errors
  have merged := length_normalize_add_duplicates (scanOf columns bytes).valid
  refine ⟨?_, ?_, mt normalize_eq_nil_iff.mp nonempty, normalize_ascending _, ?_,
    Scan.errors_ascending _, Scan.errors_within _, settled.used_nodup,
    ⟨header, readable, settled.used_lt⟩, ?_⟩
  · exact List.length_map _
  · simp only [Measurements.account]
    omega
  · intro measurement kept
    obtain ⟨row, -, valid⟩ := exists_row_of_mem_normalize kept
    exact finite_of_readRecord valid
  · intro untimed measurement kept
    obtain ⟨row, -, valid⟩ := exists_row_of_mem_normalize kept
    exact miningTime_of_readRecord valid untimed

/-- Nothing is read from unusable bytes. -/
theorem Unusable.refused {artifact : Path} {bytes : List UInt8}
    (unusable : Unusable artifact bytes) :
    ∃ failure, Measurements.ofBytes artifact bytes = .error failure := by
  rw [Measurements.ofBytes_eq]
  cases unusable with
  | header unreadable => simp [unreadable]
  | columns readable unresolved => simp [readable, unresolved]
  | @rows header columns readable resolved invalid =>
    have nothing : (scanOf columns bytes).valid = [] := by
      refine List.eq_nil_iff_forall_not_mem.mpr fun measurement member => ?_
      obtain ⟨row, isRow, valid⟩ := mem_valid_scanOf_iff.mp member
      exact invalid row isRow measurement valid
    simp [readable, resolved, Measurements.ofScan_eq, nothing]

/-- Bytes from which nothing is read are unusable, and the artifact is blamed for it. -/
theorem unusable_of_refused {artifact : Path} {bytes : List UInt8} {failure : Failure}
    (refused : Measurements.ofBytes artifact bytes = .error failure) :
    failure.kind = .dataFormat ∧ Unusable artifact bytes := by
  rw [Measurements.ofBytes_eq] at refused
  cases readable : headerOf? bytes with
  | none =>
    rw [readable] at refused
    cases refused
    exact ⟨rfl, .header readable⟩
  | some header =>
    cases resolved : resolveColumns artifact header with
    | error cause =>
      simp only [readable, resolved] at refused
      cases refused
      exact ⟨resolveColumns_error_kind resolved, .columns readable resolved⟩
    | ok columns =>
      simp only [readable, resolved, Measurements.ofScan_eq] at refused
      split at refused
      case isFalse => cases refused
      case isTrue nothing =>
        cases refused
        refine ⟨rfl, .rows readable resolved fun row isRow measurement valid => ?_⟩
        have member := mem_valid_scanOf_iff.mpr ⟨row, isRow, valid⟩
        rw [nothing] at member
        cases member

/-- Bytes are unusable, and the artifact is blamed for it, or they have measurements
that account for every row. -/
theorem ofBytes_accounted (artifact : Path) (bytes : List UInt8) :
    match Measurements.ofBytes artifact bytes with
    | .error failure => failure.kind = .dataFormat ∧ Unusable artifact bytes
    | .ok series => ¬ Unusable artifact bytes ∧ series.Accounted bytes := by
  cases outcome : Measurements.ofBytes artifact bytes with
  | error failure => exact unusable_of_refused outcome
  | ok series =>
    obtain ⟨header, columns, readable, resolved, nonempty, rfl⟩ :=
      Measurements.ofBytes_eq_ok_iff.mp outcome
    refine ⟨fun unusable => ?_, accounted_of_resolved readable resolved nonempty⟩
    obtain ⟨failure, refused⟩ := unusable.refused
    rw [outcome] at refused
    cases refused

end DeltaStudy.Artifact
