import DeltaStudy.Proofs.Failure
import DeltaStudy.Proofs.Json.Values
import DeltaStudy.Proofs.Numeral.Texts
import DeltaStudy.Proofs.Protocol.Checks
import DeltaStudy.Protocol.Rows

/-!
# Protocol tables in all their spellings

A row is spelled by a list of its name and its time, or by an object that has them as members,
once each and in any place among members with other keys. A table mixes both forms. Each is
written with any blanks between its parts, and names and keys with any escapes in them.

What reading gives depends on the rows alone. It is the rows themselves, in order and with
repeated names, or what the first of them lacks.
-/

namespace DeltaStudy.ProtocolTable

variable {row : ProtocolRow} {rows : List ProtocolRow} {text : String}

/-! ## Spellings -/

/-- The number that a time is written as. -/
def timeNumber (time : UInt64) : Json.Value :=
  .number (Numeral.digitsOf time.toNat)

/-- A member of an object is written with units that its key may be written with. -/
def WrittenAs (member : String × Json.Value) (written : List Json.StringUnit × Json.Value) : Prop :=
  Json.Encodes member.1.toList written.1 ∧ written.2 = member.2

/-- Values that spell a row. -/
inductive SpellsRow (row : ProtocolRow) : Json.Value → Prop
  | pair {units : List Json.StringUnit} (named : Json.Encodes row.name.toList units) :
    SpellsRow row (.array [.string units, timeNumber row.generationTime])
  /-- The values under unknown keys may be any, and unknown keys may be repeated. -/
  | object {units : List Json.StringUnit} {unknown members : List (String × Json.Value)}
    {written : List (List Json.StringUnit × Json.Value)}
    (named : Json.Encodes row.name.toList units)
    (others : ∀ member ∈ unknown, member.1 ≠ "name" ∧ member.1 ≠ "generation_time")
    (arranged : members.Perm (("name", .string units)
      :: ("generation_time", timeNumber row.generationTime) :: unknown))
    (keyed : List.Forall₂ WrittenAs members written) : SpellsRow row (.object written)

/-- Texts that spell rows: a list with a value for each of them. -/
def SpellsTable (rows : List ProtocolRow) (text : String) : Prop :=
  ∃ values, List.Forall₂ SpellsRow rows values ∧ Json.Document (.array values) text

theorem isNumber_digitsOf (value : Nat) : Json.IsNumber (Numeral.digitsOf value) := by
  have isWhole : Json.WholePart (Numeral.digitsOf value) := by
    refine ⟨⟨Numeral.digitsOf_ne_nil value, fun _ => Numeral.isDigit_of_mem_digitsOf⟩,
      fun zero => ?_⟩
    rcases Nat.eq_zero_or_pos value with rfl | positive
    · rfl
    · have kept := Numeral.dropWhile_zero_digitsOf positive []
      have first := List.head?_dropWhile_not (· == '0') (Numeral.digitsOf value ++ [])
      rw [kept, List.append_nil, zero] at first
      cases first
  have unsigned : [] ∈ [[], ['-']] := List.mem_cons_self
  have written := Json.IsNumber.mk unsigned isWhole (.inl rfl) (.inl rfl)
  rwa [List.nil_append, List.append_nil, List.append_nil] at written

theorem exists_spellsRow (row : ProtocolRow) :
    ∃ value text, SpellsRow row value ∧ Json.Spells (.value value) text := by
  obtain ⟨written, name⟩ := Json.exists_spellsUnits row.name.toList
  have time := Json.Spells.number (isNumber_digitsOf row.generationTime.toNat)
  exact ⟨_, _, .pair (Json.encodes_scalars _),
    .array (.item (.string name) (.refl _) (.lastItem time (.refl _)))⟩

/-- All rows can be spelled, whatever their names and times are. -/
theorem exists_spellsTable (rows : List ProtocolRow) : ∃ text, SpellsTable rows text := by
  have items (row : ProtocolRow) (rows : List ProtocolRow) :
      ∃ values text, List.Forall₂ SpellsRow (row :: rows) values
        ∧ Json.Spells (.items values) text := by
    induction rows generalizing row with
    | nil =>
      obtain ⟨value, text, spelled, written⟩ := exists_spellsRow row
      exact ⟨_, _, .cons spelled .nil, .lastItem written (.refl _)⟩
    | cons next rows inductionHypothesis =>
      obtain ⟨value, text, spelled, written⟩ := exists_spellsRow row
      obtain ⟨values, rest, others, listed⟩ := inductionHypothesis next
      exact ⟨_, _, .cons spelled others, .item written (.refl _) listed⟩
  cases rows with
  | nil => exact ⟨_, [], .nil, (Json.Spells.emptyArray .nil).document⟩
  | cons row rows =>
    obtain ⟨values, text, spelled, written⟩ := items row rows
    exact ⟨_, values, spelled, (Json.Spells.array written).document⟩

/-! ## Reading -/

theorem timeOfValue?_timeNumber (time : UInt64) : timeOfValue? (timeNumber time) = some time := by
  have digits : (Numeral.digitsOf time.toNat).all Numeral.isDigit = true :=
    List.all_eq_true.mpr fun _ => Numeral.isDigit_of_mem_digitsOf
  rw [timeNumber, timeOfValue?, if_pos digits]
  exact Numeral.readWord?_decimalText time

theorem rowOfPair?_of_encodes {units : List Json.StringUnit}
    (named : Json.Encodes row.name.toList units) :
    rowOfPair? (.string units) (timeNumber row.generationTime) = some row := by
  have name : (Json.Value.string units).text? = some row.name := by
    rw [Json.Value.text?, named.textOfUnits?, Option.map_some, String.ofList_toList]
  rw [rowOfPair?, name, timeOfValue?_timeNumber]
  rfl

theorem namedMembers?_of_writtenAs {members : List (String × Json.Value)}
    {written : List (List Json.StringUnit × Json.Value)}
    (keyed : List.Forall₂ WrittenAs members written) : namedMembers? written = some members := by
  induction keyed with
  | nil => rfl
  | @cons member written members others first rest inductionHypothesis =>
    obtain ⟨key, value⟩ := member
    obtain ⟨units, _⟩ := written
    obtain ⟨encodes, rfl⟩ := first
    rw [namedMembers?, encodes.textOfUnits?, inductionHypothesis]
    simp only [Option.bind_eq_bind, Option.bind_some, Option.pure_def, String.ofList_toList]

/-- The place of a member among the others makes no difference. -/
theorem onlyMember?_of_perm {key : String} {value : Json.Value}
    {members arranged : List (String × Json.Value)} (same : members.Perm arranged)
    (only : arranged.filter (fun member => member.1 == key) = [(key, value)]) :
    onlyMember? key members = some value := by
  have kept := same.filter fun member => member.1 == key
  rw [only, List.perm_singleton] at kept
  rw [onlyMember?, kept]

/-- A row is read from each of its forms. -/
theorem SpellsRow.rowOfValue? {value : Json.Value} (spells : SpellsRow row value) :
    ProtocolTable.rowOfValue? value = some row := by
  cases spells with
  | pair named => exact rowOfPair?_of_encodes named
  -- Neither key is among the others, so each of them leads to one member wherever it stands.
  | @object units unknown members written named others arranged keyed =>
    have noName : unknown.filter (fun member => member.1 == "name") = [] :=
      List.filter_eq_nil_iff.mpr fun member listed => by simpa using (others member listed).1
    have noTime : unknown.filter (fun member => member.1 == "generation_time") = [] :=
      List.filter_eq_nil_iff.mpr fun member listed => by simpa using (others member listed).2
    have name : onlyMember? "name" members = some (.string units) :=
      onlyMember?_of_perm arranged (by simp [noName])
    have time : onlyMember? "generation_time" members = some (timeNumber row.generationTime) :=
      onlyMember?_of_perm arranged (by simp [noTime])
    rw [ProtocolTable.rowOfValue?, namedMembers?_of_writtenAs keyed]
    simp only [Option.bind_eq_bind, Option.bind_some, name, time, rowOfPair?_of_encodes named]

theorem mapM_rowOfValue? {values : List Json.Value} (spelled : List.Forall₂ SpellsRow rows values) :
    values.mapM rowOfValue? = some rows := by
  induction spelled with
  | nil => rfl
  | cons first others inductionHypothesis =>
    rw [List.mapM_cons, first.rowOfValue?, inductionHypothesis]
    rfl

/-- Whatever text spells rows, reading it comes down to checking the rows. -/
theorem SpellsTable.ofJson_eq (spells : SpellsTable rows text) : ofJson text = ofRows rows := by
  obtain ⟨values, spelled, document⟩ := spells
  rw [ofJson, document.read?]
  simp only [rowsOfValue?, mapM_rowOfValue? spelled]

/-- Rows that are spelled in a text are read from it exactly if each of them has a name that is
not blank and a time that is not zero. The table then has these rows, one for one and in order,
with their names trimmed and in lower case. Otherwise the first row that is not usable is to
blame, for its name before its time, and the configuration is wrong. -/
theorem ofJson_spelled (spells : SpellsTable rows text) :
    ((∃ table, ofJson text = .ok table) ↔ ∀ row ∈ rows, row.IsUsable)
    ∧ (∀ table, ofJson text = .ok table →
      table.rows = rows.map fun row => ⟨Text.lowercase (Text.trim row.name), row.generationTime⟩)
    ∧ (∀ before row after, rows = before ++ row :: after → (∀ usable ∈ before, usable.IsUsable) →
      ((∀ character ∈ row.name.toList, Text.isBlank character = true) →
        ofJson text = .error .unnamedProtocol)
      ∧ ((∃ character ∈ row.name.toList, Text.isBlank character = false) →
        row.generationTime = 0 → ofJson text = .error (.zeroGenerationTime row.name)))
    ∧ ∀ failure, ofJson text = .error failure → failure.kind = .configuration := by
  rw [spells.ofJson_eq, ofRows, ← checkRows_eq_ok_iff]
  refine ⟨?_, ?_, ?_, ?_⟩
  · constructor
    · rintro ⟨table, read⟩
      obtain ⟨_, checked, -⟩ := bind_eq_ok_iff.mp read
      exact checked
    · intro checked
      rw [checked]
      exact ⟨_, rfl⟩
  · intro table read
    obtain ⟨_, -, made⟩ := bind_eq_ok_iff.mp read
    cases made
    rfl
  · rintro before row after rfl usable
    rw [checkRows_append_of_isUsable usable]
    refine ⟨fun unnamed => ?_, fun named timeless => ?_⟩
    · rw [checkRows_cons_of_unnamed unnamed]
      rfl
    · rw [checkRows_cons_of_timeless named timeless]
      rfl
  · intro failure rejected
    cases checked : checkRows rows with
    | ok =>
      rw [checked] at rejected
      cases rejected
    | error cause =>
      rw [checked] at rejected
      cases rejected
      exact kind_of_checkRows checked

/-- A list and an object in one table, with an escape in a name, a blank and an unknown key. -/
theorem ofJson_spelled_mixed :
    SpellsTable [⟨"A", 5⟩, ⟨"B", 0⟩]
      "[[\"\\u0041\",5], \x7b\"x\":null,\"generation_time\":0,\"name\":\"B\"\x7d]"
    ∧ ofJson "[[\"\\u0041\",5], \x7b\"x\":null,\"generation_time\":0,\"name\":\"B\"\x7d]"
      = .error (.zeroGenerationTime "B") := by
  have code : Json.SpellsCode (((0 * 16 + 0) * 16 + 4) * 16 + 1) ['0', '0', '4', '1'] :=
    .digits ⟨by decide, .inl rfl⟩ ⟨by decide, .inl rfl⟩ ⟨by decide, .inl rfl⟩ ⟨by decide, .inl rfl⟩
  have escaped : Json.SpellsUnit (.scalar 'A') ['\\', 'u', '0', '0', '4', '1'] := .code code
  have name := Json.spellsUnits_plain "name".toList (by simp)
  have time := Json.spellsUnits_plain "generation_time".toList (by simp)
  have first := Json.Spells.array (.item (.string (.cons escaped .nil)) (.refl _)
    (.lastItem (.number (isNumber_digitsOf 5)) (.refl _)))
  have second := Json.Spells.object (.member (Json.spellsUnits_plain ['x'] (by simp)) (.refl _)
    .null (.refl _) (.member time (.refl _) (.number (isNumber_digitsOf 0)) (.refl _)
      (.lastMember name (.refl _) (.string (Json.spellsUnits_plain ['B'] (by simp))) (.refl _))))
  have blank : Json.Spacing [' '] := by simp [Json.Spacing, Json.blanks]
  have whole := Json.Spells.array (.item first (.refl _) (.lastItem second (.mk blank .nil)))
  have known : ∀ member ∈ [("x", Json.Value.null)],
      member.1 ≠ "name" ∧ member.1 ≠ "generation_time" := by
    simp
  have arranged : [("x", Json.Value.null), ("generation_time", timeNumber 0),
      ("name", .string (['B'].map .scalar))].Perm
      [("name", .string (['B'].map .scalar)), ("generation_time", timeNumber 0), ("x", .null)] :=
    (List.reverse_perm _).symm
  have keyed (key : String) (value : Json.Value) :
      WrittenAs (key, value) (key.toList.map .scalar, value) :=
    ⟨Json.encodes_scalars _, rfl⟩
  have spells : SpellsTable [⟨"A", 5⟩, ⟨"B", 0⟩]
      "[[\"\\u0041\",5], \x7b\"x\":null,\"generation_time\":0,\"name\":\"B\"\x7d]" :=
    ⟨_, .cons (.pair (Json.encodes_scalars ['A'])) (.cons (.object (Json.encodes_scalars ['B'])
      known arranged (.cons (keyed "x" _) (.cons (keyed _ _) (.cons (keyed _ _) .nil)))) .nil),
      whole.document⟩
  have usable : ∀ row ∈ [(⟨"A", 5⟩ : ProtocolRow)], row.IsUsable :=
    List.forall_mem_singleton.mpr ⟨⟨'A', by decide, by decide⟩, by decide⟩
  exact ⟨spells, ((ofJson_spelled spells).2.2.1 [⟨"A", 5⟩] ⟨"B", 0⟩ [] rfl usable).2
    ⟨'B', by decide, by decide⟩ rfl⟩

end DeltaStudy.ProtocolTable
