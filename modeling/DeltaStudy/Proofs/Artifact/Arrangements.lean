import DeltaStudy.Proofs.Artifact.Accounts

/-!
# Tables with their columns in another order

Fields are found by name. So it does not matter in which order the columns of a table
stand and which columns of other names stand between them, as long as each field has its
column. Two tables are compared that show columns of one and the same stock; one can be
had from the other by moving columns, by leaving some out and by putting some in.

A row that is not text has no fields to move and stays where it is. Nothing is said here
about headers without a name for some field, where positions count, or about rows that
are shorter or longer than the header.
-/

namespace DeltaStudy.Artifact

/-! ## Columns of a stock -/

/-- The fields in some columns, in the order in which the columns are listed. -/
def arranged {α : Type} (places : List Nat) (fields : List α) : List α :=
  places.filterMap fun place => fields[place]?

/-- Columns of a table in some order, each of them once. None that carries the name of a
field is left out. -/
structure Arrangement (header : List String) (places : List Nat) : Prop where
  distinct : places.Nodup
  within : ∀ place ∈ places, place < header.length
  complete : ∀ field column, Carries header field column → column ∈ places

/-- At each index of an arrangement is the field that was listed there. -/
theorem getElem?_arranged {α : Type} {places : List Nat} {fields : List α}
    (within : ∀ place ∈ places, place < fields.length) (index : Nat) :
    (arranged places fields)[index]? = places[index]?.bind (fields[·]?) := by
  induction places generalizing index with
  | nil => rfl
  | cons place rest inductionHypothesis =>
    rw [List.forall_mem_cons] at within
    have found : fields[place]? = some fields[place] := List.getElem?_eq_getElem within.1
    have unfolded : arranged (place :: rest) fields = fields[place] :: arranged rest fields :=
      List.filterMap_cons_some found
    rw [unfolded]
    cases index with
    | zero => simp [found]
    | succ index => simpa using inductionHypothesis within.2 index

namespace Arrangement

variable {header : List String} {places : List Nat} (arrangement : Arrangement header places)
include arrangement

/-- An arranged column carries the name that it carries in the stock. -/
theorem carries_iff {field : Field} {index : Nat} :
    Carries (arranged places header) field index
      ↔ ∃ column, places[index]? = some column ∧ Carries header field column := by
  rw [Carries, getElem?_arranged arrangement.within]
  cases places[index]? <;> simp [Carries]

/-- A field has the column that it has in the stock. -/
theorem namedColumn?_arranged {field : Field} {column : Nat}
    (carries : Carries header field column)
    (unique : ∀ other, Carries header field other → other = column) :
    namedColumn? (arranged places header) field = some (places.idxOf column) := by
  have listed := arrangement.complete field column carries
  refine namedColumn?_of_unique
    (arrangement.carries_iff.mpr ⟨column, List.getElem?_idxOf listed, carries⟩) ?_
  intro index isNamed
  obtain ⟨other, shown, carries'⟩ := arrangement.carries_iff.mp isNamed
  obtain rfl := unique other carries'
  obtain ⟨inside, spelled⟩ := List.getElem?_eq_some_iff.mp shown
  rw [← spelled, arrangement.distinct.idxOf_getElem]

theorem getElem?_arranged_idxOf {α : Type} {fields : List α}
    (wide : fields.length = header.length) {column : Nat} (listed : column ∈ places) :
    (arranged places fields)[places.idxOf column]? = fields[column]? := by
  rw [getElem?_arranged (wide ▸ arrangement.within), List.getElem?_idxOf listed, Option.bind_some]

end Arrangement

/-! ## Rows -/

/-- The judgement of a row as it is delivered: its fields, unless they are not text. -/
def judged (columns : Columns) : Option (List String) → Except RowFault Measurement
  | some row => readRow columns row
  | none => .error .undecodable

theorem readRecord_eq (columns : Columns) (record : List (List UInt8)) :
    readRecord columns record = judged columns (textFields? record) := by
  rw [readRecord]
  cases textFields? record <;> rfl

/-- A row is judged by the fields that are looked for, wherever they stand. -/
theorem readRow_named_congr {place place' : Field → Nat} {row row' : List String}
    (same : ∀ field, row[place field]? = row'[place' field]?) :
    readRow (.named place) row = readRow (.named place') row' := by
  have text (column field : Field) :
      fieldText row (place column) field = fieldText row' (place' column) field := by
    rw [fieldText, fieldText, same]
  simp only [readRow, Columns.named, text]

/-- What is delivered of a table: its header and its rows. -/
structure Delivers (bytes : List UInt8) (header : List String)
    (rows : List (Option (List String))) : Prop where
  header_eq : headerOf? bytes = some header
  rows_eq : (rowsOf bytes).map textFields? = rows

theorem Delivers.rows_scanOf {bytes : List UInt8} {header : List String}
    {rows : List (Option (List String))} (delivers : Delivers bytes header rows)
    (columns : Columns) : (scanOf columns bytes).rows = rows.map (judged columns) := by
  rw [scanOf, ← delivers.rows_eq, List.map_map]
  exact List.map_congr_left fun record _ => readRecord_eq columns record

/-! ## Results -/

/-- Measurements that are the same but for the places of their columns. -/
structure Measurements.SameContent (left right : Measurements) : Prop where
  artifact_eq : left.artifact = right.artifact
  records_eq : left.records = right.records
  rowsRead_eq : left.rowsRead = right.rowsRead
  duplicatesDropped_eq : left.duplicatesDropped = right.duplicatesDropped
  rowErrors_eq : left.rowErrors = right.rowErrors
  hasMiningTime_eq : left.hasMiningTime = right.hasMiningTime

/-- Two readings with the same measurements or with the same failure. -/
inductive SameReading : Except Failure Measurements → Except Failure Measurements → Prop
  | usable {left right : Measurements} (same : left.SameContent right) :
      SameReading (.ok left) (.ok right)
  | refused (failure : Failure) : SameReading (.error failure) (.error failure)

/-- Where named columns stand leaves no trace behind the judgements of the rows. -/
theorem sameReading_ofScan (artifact : Path) (place place' : Field → Nat)
    (rows : List (Except RowFault Measurement)) :
    SameReading (Measurements.ofScan artifact ⟨.named place, rows⟩)
      (Measurements.ofScan artifact ⟨.named place', rows⟩) := by
  have sameValid : (Scan.mk (.named place) rows).valid = (Scan.mk (.named place') rows).valid := rfl
  rw [Measurements.ofScan_eq, Measurements.ofScan_eq]
  by_cases nothing : (Scan.mk (.named place) rows).valid = []
  · rw [if_pos nothing, if_pos (sameValid ▸ nothing)]
    exact .refused _
  · rw [if_neg nothing, if_neg (sameValid ▸ nothing)]
    exact .usable ⟨rfl, rfl, rfl, rfl, rfl, rfl⟩

theorem Delivers.ofBytes_eq {artifact : Path} {bytes : List UInt8} {header : List String}
    {rows : List (Option (List String))} (delivers : Delivers bytes header rows)
    {place : Field → Nat} (named : ∀ field, namedColumn? header field = some (place field)) :
    Measurements.ofBytes artifact bytes
      = Measurements.ofScan artifact ⟨.named place, rows.map (judged (.named place))⟩ := by
  rw [Measurements.ofBytes_eq, delivers.header_eq]
  simp only [resolveColumns_of_named named, ← delivers.rows_scanOf]
  rfl

end DeltaStudy.Artifact
