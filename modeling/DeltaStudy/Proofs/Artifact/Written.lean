import DeltaStudy.Proofs.Artifact.Accounts
import DeltaStudy.Proofs.Artifact.Names
import DeltaStudy.Proofs.Artifact.Sheets
import DeltaStudy.Proofs.Numeral.Texts

/-!
# Measurements that are written are read

A sheet holds measurements if its header names the three fields, in any order and in any
case, and its lines have the texts of the measurements in that order. Reading it undoes
the writing: all measurements are found as they were, and what is left of them is what
normalizing leaves.
-/

namespace DeltaStudy.Artifact

open Text (Plain lowercase)

/-- The text of a field of a measurement. -/
def Measurement.text (measurement : Measurement) : Field → String
  | .round => Numeral.decimalText measurement.round.toNat
  | .miningTime => Numeral.shortest measurement.miningTime
  | .difficulty => Numeral.shortest measurement.difficulty

/-- A sheet with a line for each measurement and the fields in some order. -/
structure Sheet.Holds (sheet : Sheet) (order : List Field) (measurements : List Measurement) :
    Prop where
  /-- Every field has one column. -/
  order_perm : order.Perm [.round, .miningTime, .difficulty]
  lines_eq : ∃ header rows, sheet.lines = header :: rows
    ∧ header.texts.map lowercase = order.map Field.name
    ∧ rows.map Line.texts = measurements.map fun measurement => order.map measurement.text

/-! ## Plain cells -/

theorem Measurement.Finite.plain_text {measurement : Measurement} (finite : measurement.Finite)
    (field : Field) : Plain (measurement.text field) := by
  cases field with
  | round => exact Numeral.plain_decimalText _
  | miningTime => exact Numeral.plain_shortest finite.miningTime
  | difficulty => exact Numeral.plain_shortest finite.difficulty

theorem isOrdinary_of_mem_encodeUtf8 {text : String} (plain : Plain text) {byte : UInt8}
    (member : byte ∈ Text.encodeUtf8 text) : isOrdinary byte = true := by
  have bounds := plain.of_mem_encodeUtf8 member
  have differs (other : UInt8) (different : byte.toNat ≠ other.toNat) : (byte == other) = false :=
    beq_eq_false_iff_ne.mpr (mt (congrArg UInt8.toNat) different)
  have noComma := differs TableMachine.comma bounds.2.2.1
  have noQuote := differs TableMachine.quote bounds.2.2.2
  have noLineFeed := differs 10 (show byte.toNat ≠ 10 by omega)
  have noReturn := differs 13 (show byte.toNat ≠ 13 by omega)
  rw [isOrdinary, TableMachine.isLineEnd, noComma, noQuote, noLineFeed, noReturn]
  rfl

/-- A plain text may be written without quotes. -/
theorem legible_of_plain {cell : Cell} (plain : Plain cell.text) : cell.Legible :=
  fun _ => ⟨plain.encodeUtf8_ne_nil, fun _ member => isOrdinary_of_mem_encodeUtf8 plain member⟩

/-- A line of plain texts. -/
structure Line.IsPlain (line : Line) : Prop where
  nonempty : line.texts ≠ []
  texts : ∀ text ∈ line.texts, Plain text

theorem Line.IsPlain.legible {line : Line} (plain : line.IsPlain) : line.Legible := by
  refine ⟨fun empty => plain.nonempty ?_, fun cell member => legible_of_plain ?_⟩
  · rw [Line.texts, empty, List.map_nil]
  · exact plain.texts _ (List.mem_map_of_mem member)

/-- What starts with a plain text does not start with a byte order mark. -/
theorem exists_cons_bytes_of_plain {cell : Cell} (plain : Plain cell.text) :
    ∃ first more, cell.bytes = first :: more ∧ first ≠ 0xef := by
  rw [Cell.bytes]
  split
  case isTrue => exact ⟨_, _, rfl, by decide⟩
  case isFalse =>
    obtain ⟨first, more, spelled⟩ := List.exists_cons_of_ne_nil plain.encodeUtf8_ne_nil
    refine ⟨first, more, spelled, ?_⟩
    rintro rfl
    have bounds := plain.of_mem_encodeUtf8 (spelled ▸ List.mem_cons_self)
    exact absurd bounds.2.1 (by decide)

theorem Line.IsPlain.exists_cons_bytes {line : Line} (plain : line.IsPlain) :
    ∃ first more, line.bytes = first :: more ∧ first ≠ 0xef := by
  obtain ⟨emptyLines, cells, ending⟩ := line
  cases emptyLines with
  | cons emptyLine others => cases emptyLine <;> exact ⟨_, _, rfl, by decide⟩
  | nil =>
    obtain ⟨cell, rest, rfl⟩ : ∃ cell rest, cells = cell :: rest :=
      List.exists_cons_of_ne_nil (by simpa [Line.texts] using plain.nonempty)
    obtain ⟨first, more, spelled, different⟩ :=
      exists_cons_bytes_of_plain (plain.texts cell.text (by simp [Line.texts]))
    obtain ⟨behind, bytes⟩ :
        ∃ behind, Line.bytes ⟨[], cell :: rest, ending⟩ = cell.bytes ++ behind := by
      cases rest with
      | nil => exact ⟨ending.bytes, by simp [Line.bytes]⟩
      | cons next others =>
        rw [Line.bytes, List.flatMap_nil, List.nil_append, List.map_cons, List.map_cons,
          List.intercalate_cons_cons, List.append_assoc, List.append_assoc]
        exact ⟨_, rfl⟩
    exact ⟨first, more ++ behind, by rw [bytes, spelled, List.cons_append], different⟩

theorem legible_of_isPlain {sheet : Sheet} (nonempty : sheet.lines ≠ [])
    (plain : ∀ line ∈ sheet.lines, line.IsPlain) : sheet.Legible := by
  refine ⟨fun line member => (plain line member).legible, fun _ marked => ?_⟩
  obtain ⟨line, rest, spelled⟩ := List.exists_cons_of_ne_nil nonempty
  obtain ⟨first, more, bytes, different⟩ :=
    (plain line (by simp [spelled])).exists_cons_bytes
  rw [Sheet.body, spelled, List.flatMap_cons, bytes] at marked
  exact different (Option.some.inj marked)

/-- Plain texts are read as they are. -/
theorem textFields?_of_isPlain {line : Line} (plain : line.IsPlain) :
    textFields? line.record = some line.texts := by
  rw [textFields?_record, List.map_congr_left fun text member => (plain.texts text member).trim_eq,
    List.map_id']

/-! ## The header -/

/-- Where every field has one name, its column is its place in the order. -/
theorem namedColumn?_of_names {header : List String} {order : List Field} {field : Field}
    (names : header.map normalizeName = order.map Field.name) (distinct : order.Nodup)
    (member : field ∈ order) : namedColumn? header field = some (order.idxOf field) := by
  have carries_iff (column : Nat) :
      Carries header field column ↔ order[column]? = some field := by
    rw [Carries, ← List.getElem?_map, names, List.getElem?_map, Option.map_eq_some_iff]
    constructor
    · rintro ⟨other, found, same⟩
      exact Field.name_injective same ▸ found
    · intro found
      exact ⟨field, found, rfl⟩
  refine namedColumn?_of_unique ((carries_iff _).mpr (List.getElem?_idxOf member)) ?_
  intro column carries
  obtain ⟨inside, spelled⟩ := List.getElem?_eq_some_iff.mp ((carries_iff column).mp carries)
  rw [← spelled, distinct.idxOf_getElem]

/-- The columns of a sheet with the fields in some order. -/
def columnsIn (order : List Field) : Columns :=
  ⟨order.idxOf .round, some (order.idxOf .miningTime), order.idxOf .difficulty, false⟩

section Order

variable {order : List Field} (perm : order.Perm [.round, .miningTime, .difficulty])
include perm

theorem mem_order (field : Field) : field ∈ order :=
  perm.mem_iff.mpr (by cases field <;> decide)

theorem order_ne_nil : order ≠ [] :=
  List.ne_nil_of_mem (mem_order perm .round)

/-- Columns that are all named are resolved without positions. -/
theorem resolveColumns_of_names {artifact : Path} {header : List String}
    (names : header.map normalizeName = order.map Field.name) :
    resolveColumns artifact header = .ok (columnsIn order) := by
  have distinct : order.Nodup := perm.nodup_iff.mpr (by decide)
  have column (field : Field) : namedColumn? header field = some (order.idxOf field) :=
    namedColumn?_of_names names distinct (mem_order perm field)
  exact resolveColumns_of_named column artifact

omit perm in
/-- A header names the fields whatever the case of its letters. -/
theorem normalizeName_of_header {header : Line}
    (names : header.texts.map lowercase = order.map Field.name) :
    header.texts.map normalizeName = order.map Field.name := by
  rw [← names]
  refine List.map_congr_left fun text member => ?_
  obtain ⟨field, -, named⟩ := List.mem_map.mp (names ▸ List.mem_map_of_mem member)
  rw [normalizeName_of_lowercase named.symm, named]

theorem isPlain_of_header {header : Line}
    (names : header.texts.map lowercase = order.map Field.name) : header.IsPlain := by
  refine ⟨fun empty => ?_, fun text member => ?_⟩
  · rw [empty, List.map_nil] at names
    exact order_ne_nil perm (List.map_eq_nil_iff.mp names.symm)
  · obtain ⟨field, -, named⟩ := List.mem_map.mp (names ▸ List.mem_map_of_mem member)
    exact .of_lowercase (named ▸ plain_name field)

/-! ## The rows -/

/-- The texts of a measurement, in any order of the fields, are read as the measurement. -/
theorem readRow_texts {measurement : Measurement} (finite : measurement.Finite) :
    readRow (columnsIn order) (order.map measurement.text) = .ok measurement := by
  have found (field : Field) :
      fieldText (order.map measurement.text) (order.idxOf field) field
        = .ok (measurement.text field) := by
    refine fieldText_eq_ok_iff.mpr ⟨?_, (finite.plain_text field).nonempty⟩
    rw [List.getElem?_map, List.getElem?_idxOf (mem_order perm field), Option.map_some]
  have read (field : Field) {value : Float} (isFinite : value.isFinite = true) :
      readValue field (Numeral.shortest value) = .ok value :=
    readValue_eq_ok_iff.mpr ⟨Numeral.readFloat?_shortest_of_isFinite isFinite, isFinite⟩
  refine readRow_eq_ok_iff.mpr ⟨⟨_, found .round, ?_⟩,
    ⟨_, found .difficulty, read _ finite.difficulty⟩,
    ⟨_, found .miningTime, read _ finite.miningTime⟩⟩
  simp only [readRound, Measurement.text, Numeral.readWord?_decimalText]

theorem isPlain_of_row {line : Line} {measurement : Measurement} (finite : measurement.Finite)
    (texts : line.texts = order.map measurement.text) : line.IsPlain := by
  refine ⟨fun empty => ?_, fun text member => ?_⟩
  · exact order_ne_nil perm (List.map_eq_nil_iff.mp (texts.symm.trans empty))
  · obtain ⟨field, -, rfl⟩ := List.mem_map.mp (texts ▸ member)
    exact finite.plain_text field

/-- Every row is valid and has the measurement that was written in it. -/
theorem map_readRecord_rows {rows : List Line} {measurements : List Measurement}
    (finite : ∀ measurement ∈ measurements, measurement.Finite)
    (texts : rows.map Line.texts = measurements.map fun measurement => order.map measurement.text) :
    (rows.map Line.record).map (readRecord (columnsIn order)) = measurements.map .ok := by
  induction rows generalizing measurements with
  | nil => rw [List.map_eq_nil_iff.mp texts.symm, List.map_nil, List.map_nil, List.map_nil]
  | cons line rest inductionHypothesis =>
    obtain ⟨measurement, others, rfl, same, later⟩ := List.map_eq_cons_iff.mp texts.symm
    rw [List.forall_mem_cons] at finite
    have plain := isPlain_of_row perm finite.1 same.symm
    have valid : readRecord (columnsIn order) line.record = .ok measurement :=
      readRecord_eq_ok_iff.mpr ⟨_, textFields?_of_isPlain plain,
        same ▸ readRow_texts perm finite.1⟩
    rw [List.map_cons, List.map_cons, valid, inductionHypothesis finite.2 later.symm, List.map_cons]

theorem isPlain_of_rows {rows : List Line} {measurements : List Measurement}
    (finite : ∀ measurement ∈ measurements, measurement.Finite)
    (texts : rows.map Line.texts = measurements.map fun measurement => order.map measurement.text) :
    ∀ line ∈ rows, line.IsPlain := by
  intro line member
  obtain ⟨measurement, written, same⟩ := List.mem_map.mp (texts ▸ List.mem_map_of_mem member)
  exact isPlain_of_row perm (finite measurement written) same.symm

end Order

/-! ## The whole sheet -/

/-- The records of a sheet that holds measurements, and what they are read as. -/
theorem Sheet.Holds.read {sheet : Sheet} {order : List Field} {measurements : List Measurement}
    (holds : sheet.Holds order measurements)
    (finite : ∀ measurement ∈ measurements, measurement.Finite) (artifact : Path) :
    ∃ header, headerOf? sheet.bytes = some header
      ∧ resolveColumns artifact header = .ok (columnsIn order)
      ∧ (scanOf (columnsIn order) sheet.bytes).rows = measurements.map .ok := by
  obtain ⟨perm, header, rows, spelled, names, texts⟩ := holds
  have plainHeader := isPlain_of_header perm names
  have legible : sheet.Legible := by
    refine legible_of_isPlain (by simp [spelled]) ?_
    rw [spelled]
    exact List.forall_mem_cons.mpr ⟨plainHeader, isPlain_of_rows perm finite texts⟩
  have read : records sheet.bytes = header.record :: rows.map Line.record := by
    rw [records_bytes legible, spelled, List.map_cons]
  refine ⟨header.texts, ?_, resolveColumns_of_names perm (normalizeName_of_header names), ?_⟩
  · rw [headerOf?, read]
    exact textFields?_of_isPlain plainHeader
  · rw [scanOf, rowsOf, read]
    exact map_readRecord_rows perm finite texts

/-- Where every row is valid all measurements are found and none is set aside. -/
theorem Scan.of_rows_ok {scan : Scan} {measurements : List Measurement}
    (all : scan.rows = measurements.map .ok) : scan.valid = measurements ∧ scan.errors = [] := by
  have valid : scan.valid = measurements := by
    rw [Scan.valid, all, List.filterMap_map]
    exact List.filterMap_some
  refine ⟨valid, List.eq_nil_of_length_eq_zero ?_⟩
  have counted := scan.length_valid_add_length_errors
  rw [valid, all, List.length_map] at counted
  omega

/-- From any sheet that holds measurements they are read back, one for each round. -/
theorem ofBytes_sheet {sheet : Sheet} {order : List Field} {measurements : List Measurement}
    (artifact : Path) (nonempty : measurements ≠ [])
    (finite : ∀ measurement ∈ measurements, measurement.Finite)
    (holds : sheet.Holds order measurements) :
    ∃ series, Measurements.ofBytes artifact sheet.bytes = .ok series
      ∧ series.records = normalize measurements
      ∧ series.rowsRead = measurements.length
      ∧ series.duplicatesDropped
        = measurements.length - (measurements.map Measurement.round).toFinset.card
      ∧ series.rowErrors = []
      ∧ series.columns.positional = false
      ∧ series.hasMiningTime = true := by
  obtain ⟨header, readable, resolved, all⟩ := holds.read finite artifact
  obtain ⟨valid, errors⟩ := Scan.of_rows_ok all
  refine ⟨_, Measurements.ofBytes_eq_ok_iff.mpr
    ⟨header, _, readable, resolved, valid.symm ▸ nonempty, rfl⟩, ?_⟩
  simp only [Measurements.account, valid, errors, all, List.length_map, duplicates,
    length_firstOfRounds, true_and]
  exact ⟨rfl, rfl⟩

/-- A sheet with a byte order mark, quotes, all line ends, empty lines and a round that
comes twice. -/
theorem ofBytes_sheet_mixed :
    let measurements : List Measurement :=
      [⟨18446744073709551615, 0.1, 100⟩, ⟨7, 1.5, -0.0⟩, ⟨7, 3, 4⟩]
    let sheet : Sheet :=
      { marked := true
        lines :=
          [⟨[.both], [⟨"Difficulty", true⟩, ⟨"ROUND", false⟩, ⟨"mining_Time", false⟩], .both⟩,
            ⟨[], [⟨"100", false⟩, ⟨"18446744073709551615", true⟩, ⟨"0.1", true⟩], .carriageReturn⟩,
            ⟨[.lineFeed], [⟨"-0", true⟩, ⟨"7", false⟩, ⟨"1.5", false⟩], .lineFeed⟩,
            ⟨[.carriageReturn, .lineFeed], [⟨"4", false⟩, ⟨"7", false⟩, ⟨"3", true⟩], .both⟩]
        emptyLines := [.lineFeed] }
    measurements ≠ [] ∧ (∀ measurement ∈ measurements, measurement.Finite)
    ∧ sheet.Holds [.difficulty, .round, .miningTime] measurements
    ∧ ∃ series, Measurements.ofBytes ⟨"a.csv"⟩ sheet.bytes = .ok series
      ∧ series.records = normalize measurements ∧ series.rowsRead = 3
      ∧ series.duplicatesDropped = 1 ∧ series.rowErrors = []
      ∧ series.columns.positional = false ∧ series.hasMiningTime = true := by
  intro measurements sheet
  have numbers : ∀ measurement ∈ measurements,
      measurement.difficulty.isFinite = true ∧ measurement.miningTime.isFinite = true := by
    decide +kernel
  have finite : ∀ measurement ∈ measurements, measurement.Finite :=
    fun measurement member => ⟨(numbers measurement member).1, (numbers measurement member).2⟩
  have holds : sheet.Holds [.difficulty, .round, .miningTime] measurements :=
    ⟨by decide, _, _, rfl, by decide +kernel, by decide +kernel⟩
  have nonempty : measurements ≠ [] := List.cons_ne_nil _ _
  exact ⟨nonempty, finite, holds, ofBytes_sheet ⟨"a.csv"⟩ nonempty finite holds⟩

end DeltaStudy.Artifact
