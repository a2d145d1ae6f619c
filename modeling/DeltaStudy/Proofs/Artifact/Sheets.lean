import DeltaStudy.Artifact.Table
import DeltaStudy.Proofs.Text.Utf8

/-!
# Tables as they are written

One table can be written in many ways: with quotes around any of its fields, with any
mixture of line ends, with empty lines anywhere and with a byte order mark. However a
table is written, its records are read.
-/

namespace DeltaStudy.Artifact

open TableMachine

/-! ## Writing -/

/-- How the end of a line is written. -/
inductive LineEnd where
  | lineFeed
  | carriageReturn
  /-- A carriage return and then a line feed. -/
  | both
deriving DecidableEq, Repr

def LineEnd.bytes : LineEnd → List UInt8
  | .lineFeed => [10]
  | .carriageReturn => [13]
  | .both => [13, 10]

/-- A field as it is written. -/
structure Cell where
  text : String
  /-- Whether the text stands between quotes. -/
  quoted : Bool
deriving DecidableEq, Repr

namespace Cell

/-- The bytes that the cell stands for. -/
def content (cell : Cell) : List UInt8 :=
  Text.encodeUtf8 cell.text

/-- A byte between quotes. -/
def quotedByte (byte : UInt8) : List UInt8 :=
  if byte = quote then [quote, quote] else [byte]

/-- The bytes of a cell. -/
def bytes (cell : Cell) : List UInt8 :=
  if cell.quoted then quote :: cell.content.flatMap quotedByte ++ [quote] else cell.content

end Cell

/-- A record as it is written. -/
structure Line where
  /-- The empty lines in front of it. -/
  emptyLines : List LineEnd
  cells : List Cell
  ending : LineEnd
deriving DecidableEq, Repr

namespace Line

/-- The bytes of a line and of the empty lines in front of it. -/
def bytes (line : Line) : List UInt8 :=
  line.emptyLines.flatMap LineEnd.bytes
    ++ ([comma].intercalate (line.cells.map Cell.bytes) ++ line.ending.bytes)

/-- The texts of the cells. -/
def texts (line : Line) : List String :=
  line.cells.map Cell.text

/-- The record that the line stands for. -/
def record (line : Line) : List (List UInt8) :=
  line.cells.map Cell.content

end Line

/-- A table as it is written. -/
structure Sheet where
  /-- Whether a byte order mark is in front. -/
  marked : Bool
  lines : List Line
  /-- The empty lines at the end. -/
  emptyLines : List LineEnd
deriving DecidableEq, Repr

namespace Sheet

/-- The bytes behind the byte order mark. -/
def body (sheet : Sheet) : List UInt8 :=
  sheet.lines.flatMap Line.bytes ++ sheet.emptyLines.flatMap LineEnd.bytes

/-- The bytes of a sheet. -/
def bytes (sheet : Sheet) : List UInt8 :=
  if sheet.marked then 0xef :: 0xbb :: 0xbf :: sheet.body else sheet.body

end Sheet

/-! ## Reading one record -/

/-- The places in front of a field. -/
inductive Place.Before : Place → Prop where
  | recordStart : Before .recordStart
  | fieldStart : Before .fieldStart

/-- The places behind a field. -/
inductive Place.Behind : Place → Prop where
  | plain : Behind .plain
  | quoteSeen : Behind .quoteSeen

/-- Whether a byte stands for itself outside quotes. -/
def isOrdinary (byte : UInt8) : Bool :=
  !(byte == comma || byte == quote || isLineEnd byte)

/-- Without quotes a cell has to have bytes, and only such that stand for themselves. -/
def Cell.Legible (cell : Cell) : Prop :=
  cell.quoted = false → cell.content ≠ [] ∧ ∀ byte ∈ cell.content, isOrdinary byte = true

section Machine

variable (field : List UInt8) (fields : List (List UInt8)) (records : List (List (List UInt8)))

/-- Empty lines are no records. -/
theorem foldl_step_emptyLines (emptyLines : List LineEnd) :
    (emptyLines.flatMap LineEnd.bytes).foldl step ⟨.recordStart, field, fields, records⟩
      = ⟨.recordStart, field, fields, records⟩ := by
  induction emptyLines with
  | nil => rfl
  | cons ending rest inductionHypothesis =>
    rw [List.flatMap_cons, List.foldl_append]
    have skipped : ending.bytes.foldl step ⟨.recordStart, field, fields, records⟩
        = ⟨.recordStart, field, fields, records⟩ := by
      cases ending <;> rfl
    rw [skipped, inductionHypothesis]

/-- Between quotes every byte is taken into the field. -/
theorem foldl_step_quoted (content : List UInt8) :
    (content.flatMap Cell.quotedByte).foldl step ⟨.quoted, field, fields, records⟩
      = ⟨.quoted, content.reverse ++ field, fields, records⟩ := by
  induction content generalizing field with
  | nil => rfl
  | cons byte rest inductionHypothesis =>
    have taken : (Cell.quotedByte byte).foldl step ⟨.quoted, field, fields, records⟩
        = ⟨.quoted, byte :: field, fields, records⟩ := by
      unfold Cell.quotedByte
      split
      case isTrue same =>
        subst same
        rfl
      case isFalse different => simp [step, keep, different]
    rw [List.flatMap_cons, List.foldl_append, taken, inductionHypothesis, List.reverse_cons,
      List.append_assoc, List.singleton_append]

/-- An ordinary byte is taken into the field, unless there are quotes around it. -/
theorem step_ordinary {place : Place} {byte : UInt8} (ordinary : isOrdinary byte = true)
    (outside : place.Before ∨ place = .plain) :
    step ⟨place, field, fields, records⟩ byte = ⟨.plain, byte :: field, fields, records⟩ := by
  simp only [isOrdinary, Bool.not_eq_true', Bool.or_eq_false_iff] at ordinary
  obtain ⟨⟨noComma, noQuote⟩, noLineEnd⟩ := ordinary
  rcases outside with (- | -) | rfl
  all_goals simp [step, stepPlain, keep, noComma, noQuote, noLineEnd]

theorem foldl_step_ordinary {content : List UInt8}
    (ordinary : ∀ byte ∈ content, isOrdinary byte = true) :
    content.foldl step ⟨.plain, field, fields, records⟩
      = ⟨.plain, content.reverse ++ field, fields, records⟩ := by
  induction content generalizing field with
  | nil => rfl
  | cons byte rest inductionHypothesis =>
    rw [List.forall_mem_cons] at ordinary
    rw [List.foldl_cons, step_ordinary field fields records ordinary.1 (.inr rfl),
      inductionHypothesis _ ordinary.2, List.reverse_cons, List.append_assoc,
      List.singleton_append]

/-- Behind a cell the machine has its content. -/
theorem foldl_step_cell {cell : Cell} (legible : cell.Legible) {place : Place}
    (before : place.Before) :
    ∃ behind : Place, behind.Behind ∧ cell.bytes.foldl step ⟨place, [], fields, records⟩
      = ⟨behind, cell.content.reverse, fields, records⟩ := by
  unfold Cell.bytes
  cases quoted : cell.quoted with
  | true =>
    have opened : step ⟨place, [], fields, records⟩ quote = ⟨.quoted, [], fields, records⟩ := by
      cases before <;> rfl
    refine ⟨.quoteSeen, .quoteSeen, ?_⟩
    rw [if_pos rfl, List.cons_append, List.foldl_cons, opened, List.foldl_append,
      foldl_step_quoted, List.append_nil]
    rfl
  | false =>
    obtain ⟨nonempty, ordinary⟩ := legible quoted
    obtain ⟨first, rest, spelled⟩ := List.exists_cons_of_ne_nil nonempty
    rw [spelled, List.forall_mem_cons] at ordinary
    refine ⟨.plain, .plain, ?_⟩
    rw [if_neg (by decide), spelled, List.foldl_cons,
      step_ordinary [] fields records ordinary.1 (.inl before),
      foldl_step_ordinary _ _ _ ordinary.2, List.reverse_cons]

theorem step_comma {place : Place} (behind : place.Behind) :
    step ⟨place, field, fields, records⟩ comma
      = ⟨.fieldStart, [], field.reverse :: fields, records⟩ := by
  cases behind <;> rfl

theorem foldl_step_ending {place : Place} (behind : place.Behind) (ending : LineEnd) :
    ending.bytes.foldl step ⟨place, field, fields, records⟩
      = ⟨.recordStart, [], [], (field.reverse :: fields).reverse :: records⟩ := by
  cases behind <;> cases ending <;> rfl

/-- The cells of a line are read as the fields of a record, behind those that were read
before. -/
theorem foldl_step_cells {cells : List Cell} (nonempty : cells ≠ [])
    (legible : ∀ cell ∈ cells, cell.Legible) (ending : LineEnd) {place : Place}
    (before : place.Before) :
    ([comma].intercalate (cells.map Cell.bytes) ++ ending.bytes).foldl step
        ⟨place, [], fields, records⟩
      = ⟨.recordStart, [], [], (fields.reverse ++ cells.map Cell.content) :: records⟩ := by
  induction cells generalizing place fields with
  | nil => exact absurd rfl nonempty
  | cons cell rest inductionHypothesis =>
    rw [List.forall_mem_cons] at legible
    obtain ⟨behind, isBehind, read⟩ := foldl_step_cell fields records legible.1 before
    cases rest with
    | nil =>
      rw [List.map_singleton, List.intercalate_singleton, List.foldl_append, read,
        foldl_step_ending _ _ _ isBehind, List.reverse_reverse, List.reverse_cons,
        List.map_singleton]
    | cons next others =>
      have later := inductionHypothesis (cell.content :: fields) (List.cons_ne_nil _ _) legible.2
        .fieldStart
      rw [List.map_cons, List.map_cons, List.intercalate_cons_cons, ← List.map_cons,
        List.append_assoc, List.append_assoc, List.foldl_append, read, List.singleton_append,
        List.foldl_cons, step_comma _ _ _ isBehind, List.reverse_reverse, later]
      simp

end Machine

/-! ## Reading all records -/

namespace Line

/-- A line that is read as its record. -/
structure Legible (line : Line) : Prop where
  nonempty : line.cells ≠ []
  cells : ∀ cell ∈ line.cells, cell.Legible

theorem foldl_step_bytes {line : Line} (legible : line.Legible)
    (records : List (List (List UInt8))) :
    line.bytes.foldl step ⟨.recordStart, [], [], records⟩
      = ⟨.recordStart, [], [], line.record :: records⟩ := by
  rw [bytes, List.foldl_append, foldl_step_emptyLines,
    foldl_step_cells _ _ legible.nonempty legible.cells _ .recordStart]
  rfl

theorem foldl_step_flatMap_bytes {lines : List Line} (legible : ∀ line ∈ lines, line.Legible)
    (records : List (List (List UInt8))) :
    (lines.flatMap bytes).foldl step ⟨.recordStart, [], [], records⟩
      = ⟨.recordStart, [], [], (lines.map record).reverse ++ records⟩ := by
  induction lines generalizing records with
  | nil => rfl
  | cons line rest inductionHypothesis =>
    rw [List.forall_mem_cons] at legible
    rw [List.flatMap_cons, List.foldl_append, foldl_step_bytes legible.1,
      inductionHypothesis legible.2, List.map_cons, List.reverse_cons, List.append_assoc,
      List.singleton_append]

end Line

/-- A sheet that is read as its records. Without a byte order mark it must not look as if
it had one. -/
structure Sheet.Legible (sheet : Sheet) : Prop where
  lines : ∀ line ∈ sheet.lines, line.Legible
  unmarked : sheet.marked = false → sheet.body.head? ≠ some 0xef

/-- A byte order mark is not part of the table. -/
theorem withoutMark_bytes {sheet : Sheet} (legible : sheet.Legible) :
    withoutMark sheet.bytes = sheet.body := by
  unfold Sheet.bytes
  cases marked : sheet.marked with
  | true => rfl
  | false =>
    have start := legible.unmarked marked
    rw [if_neg (by decide), withoutMark]
    intro rest spelled
    rw [spelled] at start
    exact start rfl

/-- The records of a sheet are read, however it is written. -/
theorem records_bytes {sheet : Sheet} (legible : sheet.Legible) :
    records sheet.bytes = sheet.lines.map Line.record := by
  rw [records, withoutMark_bytes legible, Sheet.body, List.foldl_append, initial,
    Line.foldl_step_flatMap_bytes legible.lines, foldl_step_emptyLines, finish]
  simp

/-- The fields of a line are texts, and the blanks around them are gone. -/
theorem textFields?_record (line : Line) :
    textFields? line.record = some (line.texts.map Text.trim) := by
  rw [Line.record, Line.texts, textFields?]
  induction line.cells with
  | nil => rfl
  | cons cell rest inductionHypothesis =>
    simp only [List.map_cons, List.mapM_cons, inductionHypothesis, Cell.content,
      Text.decodeUtf8?_encodeUtf8]
    rfl

end DeltaStudy.Artifact
