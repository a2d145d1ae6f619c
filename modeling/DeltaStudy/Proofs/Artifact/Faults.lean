import DeltaStudy.Proofs.Artifact.Accounts
import DeltaStudy.Proofs.Artifact.Names
import DeltaStudy.Proofs.Text.Lines

/-!
# What faults quote

The message of a fault may quote a field of its row, and nothing else in it comes from the
artifact. So it has a line feed in it exactly if the field has one, and a field can only have
one if there are quotes in the artifact.
-/

namespace DeltaStudy.Artifact

open Text (Unbroken)

/-! ## Faults of a row -/

namespace RowFault

/-- The text that a fault quotes. -/
def quoted? : RowFault → Option String
  | undecodable => none
  | missing _ => none
  | invalidRound text => some text
  | invalidValue _ text => some text

/-- A message has no line feed but those of the text that it quotes. -/
theorem unbroken_message_iff (fault : RowFault) :
    Unbroken fault.message ↔ ∀ text ∈ fault.quoted?, Unbroken text := by
  have name (field : Field) : Unbroken field.name := (plain_name field).unbroken
  cases fault with
  | undecodable => exact iff_of_true (by decide) (by simp [quoted?])
  | missing field =>
    have told : Unbroken (missing field).message :=
      (Unbroken.append (by decide) (name field)).append (by decide)
    exact iff_of_true told (by simp [quoted?])
  | invalidRound text =>
    unfold message
    simp only [quoted?, Option.mem_some_iff, forall_eq', Text.unbroken_append_iff]
    exact ⟨fun told => told.1.2, fun unbroken => ⟨⟨by decide, unbroken⟩, by decide⟩⟩
  | invalidValue field text =>
    unfold message
    simp only [quoted?, Option.mem_some_iff, forall_eq', Text.unbroken_append_iff]
    exact ⟨fun told => told.1.2,
      fun unbroken => ⟨⟨⟨⟨by decide, name field⟩, by decide⟩, unbroken⟩, by decide⟩⟩

end RowFault

section Reading

variable {α β : Type} {row : List String} {fault : RowFault} {text : String}

theorem quoted?_of_fieldText {column : Nat} {field : Field}
    (refused : fieldText row column field = .error fault) : fault.quoted? = none := by
  rw [fieldText] at refused
  split at refused
  · split at refused
    · cases refused
      rfl
    · cases refused
  · cases refused
    rfl

theorem quoted?_of_readRound (refused : readRound text = .error fault) :
    fault.quoted? = some text := by
  rw [readRound] at refused
  split at refused
  · cases refused
  · split at refused
    · cases refused
    · cases refused
      rfl

theorem quoted?_of_readValue {field : Field} (refused : readValue field text = .error fault) :
    fault.quoted? = some text := by
  rw [readValue] at refused
  split at refused
  · split at refused
    · cases refused
    · cases refused
      rfl
  · cases refused
    rfl

/-- A field is refused with a text that is quoted from the row, or what follows is refused. -/
theorem mem_of_field {read : String → Except RowFault α} {next : α → Except RowFault β}
    (own : ∀ {text : String}, read text = .error fault → fault.quoted? = some text)
    {column : Nat} {field : Field}
    (refused : (fieldText row column field >>= fun text => read text >>= next) = .error fault)
    (quoted : fault.quoted? = some text) :
    text ∈ row ∨ ∃ value, next value = .error fault := by
  rcases bind_eq_error_iff.mp refused with missing | ⟨found, isField, refused⟩
  · rw [quoted?_of_fieldText missing] at quoted
    cases quoted
  · rcases bind_eq_error_iff.mp refused with refused | ⟨value, -, refused⟩
    · rw [own refused] at quoted
      cases quoted
      exact .inl (List.mem_of_getElem? (fieldText_eq_ok_iff.mp isField).1)
    · exact .inr ⟨value, refused⟩

/-- What the fault of a row quotes is a field of the row. -/
theorem mem_of_readRow {columns : Columns} (refused : readRow columns row = .error fault)
    (quoted : fault.quoted? = some text) : text ∈ row := by
  rcases mem_of_field quoted?_of_readRound refused quoted with member | ⟨round, refused⟩
  · exact member
  rcases mem_of_field quoted?_of_readValue refused quoted with member | ⟨difficulty, refused⟩
  · exact member
  cases timed : columns.miningTime with
  | none =>
    rw [timed] at refused
    cases refused
  | some column =>
    rw [timed] at refused
    rcases mem_of_field quoted?_of_readValue refused quoted with member | ⟨miningTime, done⟩
    · exact member
    · cases done

end Reading

/-! ## Line ends in fields -/

/-- A field that is in one line of its table. -/
def Inline (field : List UInt8) : Prop :=
  ∀ byte ∈ field, TableMachine.isLineEnd byte = false

namespace TableMachine

/-- A machine outside quotes that has met none. -/
structure Unquoted (machine : TableMachine) : Prop where
  place : machine.place ≠ .quoted ∧ machine.place ≠ .quoteSeen
  field : Inline machine.field
  fields : ∀ field ∈ machine.fields, Inline field
  records : ∀ record ∈ machine.records, ∀ field ∈ record, Inline field

variable {machine : TableMachine} {byte : UInt8}

theorem Unquoted.initial : Unquoted initial :=
  ⟨by decide, List.forall_mem_nil _, List.forall_mem_nil _, List.forall_mem_nil _⟩

theorem Unquoted.inline_reverse (unquoted : machine.Unquoted) : Inline machine.field.reverse :=
  fun byte member => unquoted.field byte (List.mem_reverse.mp member)

theorem Unquoted.endField (unquoted : machine.Unquoted) : machine.endField.Unquoted where
  place := ⟨nofun, nofun⟩
  field := List.forall_mem_nil _
  fields := List.forall_mem_cons.mpr ⟨unquoted.inline_reverse, unquoted.fields⟩
  records := unquoted.records

theorem Unquoted.endRecord (unquoted : machine.Unquoted) : machine.endRecord.Unquoted where
  place := ⟨nofun, nofun⟩
  field := List.forall_mem_nil _
  fields := List.forall_mem_nil _
  records := by
    refine List.forall_mem_cons.mpr ⟨fun field member => ?_, unquoted.records⟩
    rcases List.mem_cons.mp (List.mem_reverse.mp member) with rfl | member
    · exact unquoted.inline_reverse
    · exact unquoted.fields field member

theorem Unquoted.stepPlain (unquoted : machine.Unquoted) (byte : UInt8) :
    (machine.stepPlain byte).Unquoted := by
  rw [TableMachine.stepPlain]
  split
  · exact unquoted.endField
  split
  · exact unquoted.endRecord
  case isFalse inside =>
    exact ⟨⟨nofun, nofun⟩,
      List.forall_mem_cons.mpr ⟨Bool.eq_false_iff.mpr inside, unquoted.field⟩,
      unquoted.fields, unquoted.records⟩

theorem Unquoted.step (unquoted : machine.Unquoted) (other : byte ≠ quote) :
    (machine.step byte).Unquoted := by
  have different : (byte == quote) = false := beq_eq_false_iff_ne.mpr other
  have plain := unquoted.stepPlain byte
  rw [TableMachine.step]
  split
  case h_1 =>
    split
    · exact unquoted
    · rw [different]
      exact plain
  case h_2 =>
    rw [different]
    exact plain
  case h_3 => exact plain
  case h_4 place => exact absurd place unquoted.place.1
  case h_5 place => exact absurd place unquoted.place.2

/-- Without quotes the machine never comes into one. -/
theorem Unquoted.foldl_step (unquoted : machine.Unquoted) {bytes : List UInt8}
    (none : quote ∉ bytes) : (bytes.foldl TableMachine.step machine).Unquoted := by
  induction bytes generalizing machine with
  | nil => exact unquoted
  | cons byte rest inductionHypothesis =>
    rw [List.mem_cons, not_or] at none
    exact inductionHypothesis (unquoted.step (Ne.symm none.1)) none.2

theorem Unquoted.inline_finish (unquoted : machine.Unquoted) :
    ∀ record ∈ machine.finish, ∀ field ∈ record, Inline field := by
  intro record member
  rw [finish] at member
  split at member
  · exact unquoted.records record (List.mem_reverse.mp member)
  · exact unquoted.endRecord.records record (List.mem_reverse.mp member)

end TableMachine

theorem withoutMark_suffix (bytes : List UInt8) : withoutMark bytes <:+ bytes := by
  fun_cases withoutMark bytes with
  | case1 rest => exact ⟨[0xef, 0xbb, 0xbf], rfl⟩
  | case2 => exact List.suffix_refl _

/-- A table without quotes has no field with a line end. -/
theorem inline_of_mem_records {bytes : List UInt8} (none : TableMachine.quote ∉ bytes) :
    ∀ record ∈ records bytes, ∀ field ∈ record, Inline field :=
  (TableMachine.Unquoted.initial.foldl_step fun member =>
    none ((withoutMark_suffix bytes).subset member)).inline_finish

/-- Every text of a row is a field without the blanks around it. -/
theorem exists_field_of_textFields? {record : List (List UInt8)} {row : List String}
    (decoded : textFields? record = some row) {text : String} (member : text ∈ row) :
    ∃ field ∈ record, ∃ whole, Text.decodeUtf8? field = some whole ∧ text = Text.trim whole := by
  induction record generalizing row with
  | nil =>
    cases decoded
    cases member
  | cons field rest inductionHypothesis =>
    rw [textFields?, List.mapM_cons] at decoded
    obtain ⟨first, isFirst, decoded⟩ := Option.bind_eq_some_iff.mp decoded
    obtain ⟨others, later, same⟩ := Option.bind_eq_some_iff.mp decoded
    obtain ⟨whole, spelled, trimmed⟩ := Option.map_eq_some_iff.mp isFirst
    cases same
    rcases List.mem_cons.mp member with rfl | member
    · exact ⟨field, List.mem_cons_self, whole, spelled, trimmed.symm⟩
    · obtain ⟨other, isOther, found⟩ := inductionHypothesis later member
      exact ⟨other, List.mem_cons_of_mem _ isOther, found⟩

/-- A text that is read from a field without line ends has no line feed. -/
theorem unbroken_of_inline {record : List (List UInt8)} {row : List String}
    (inline : ∀ field ∈ record, Inline field) (decoded : textFields? record = some row) :
    ∀ text ∈ row, Unbroken text := by
  intro text member
  obtain ⟨field, isField, whole, spelled, rfl⟩ := exists_field_of_textFields? decoded member
  intro lineFeed
  rw [Text.trim, String.toList_ofList] at lineFeed
  have isByte := Text.mem_of_decodeUtf8? spelled (Text.mem_of_mem_trimmed lineFeed)
    (by decide) (by decide)
  exact absurd (inline field isField _ isByte) (by decide)

/-! ## What the errors of a table quote -/

/-- What the message of an error quotes from its row. -/
inductive Quotes (columns : Columns) (bytes : List UInt8) (error : RowError) (text : String) : Prop
  | intro {record : List (List UInt8)} {row : List String} {fault : RowFault}
    (found : (rowsOf bytes)[error.line - 2]? = some record)
    (decoded : textFields? record = some row)
    (refused : readRow columns row = .error fault) (told : error.message = fault.message)
    (quoted : fault.quoted? = some text) (member : text ∈ row)

theorem Measurements.rowErrors_account (artifact : Path) (scan : Scan) :
    (Measurements.account artifact scan).rowErrors = scan.errors :=
  rfl

/-- Every error is the fault of a record. -/
theorem exists_fault_of_mem_errors {columns : Columns} {bytes : List UInt8} {error : RowError}
    (member : error ∈ (scanOf columns bytes).errors) :
    ∃ record fault, (rowsOf bytes)[error.line - 2]? = some record
      ∧ readRecord columns record = .error fault ∧ error.message = fault.message := by
  rw [Scan.errors_eq, List.mem_filterMap] at member
  obtain ⟨⟨judgement, index⟩, isRow, set⟩ := member
  have isRow := List.mem_zipIdx_iff_getElem?.mp isRow
  cases judgement with
  | ok measurement => cases set
  | error fault =>
    cases set
    rw [scanOf, List.getElem?_map, Option.map_eq_some_iff] at isRow
    obtain ⟨record, found, refused⟩ := isRow
    exact ⟨record, fault, found, refused, rfl⟩

/-- A message is one line if what it quotes is. -/
theorem unbroken_message_iff_quotes {columns : Columns} {bytes : List UInt8} {error : RowError}
    (member : error ∈ (scanOf columns bytes).errors) :
    Unbroken error.message ↔ ∀ text, Quotes columns bytes error text → Unbroken text := by
  constructor
  · rintro unbroken text ⟨-, -, -, told, quoted, -⟩
    rw [told, RowFault.unbroken_message_iff] at unbroken
    exact unbroken text quoted
  · intro all
    obtain ⟨record, fault, found, refused, told⟩ := exists_fault_of_mem_errors member
    rw [told, RowFault.unbroken_message_iff]
    intro text quoted
    rw [readRecord] at refused
    split at refused
    case h_1 row decoded =>
      exact all text ⟨found, decoded, refused, told, quoted, mem_of_readRow refused quoted⟩
    case h_2 =>
      cases refused
      cases quoted

/-- Without quotes in the table nothing with a line feed is quoted from it. -/
theorem Quotes.unbroken {columns : Columns} {bytes : List UInt8} {error : RowError} {text : String}
    (quotes : Quotes columns bytes error text) (none : TableMachine.quote ∉ bytes) :
    Unbroken text := by
  obtain ⟨found, decoded, -, -, -, member⟩ := quotes
  have isRecord := List.mem_of_mem_tail (List.mem_of_getElem? found)
  exact unbroken_of_inline (inline_of_mem_records none _ isRecord) decoded text member

end DeltaStudy.Artifact
