import DeltaStudy.Proofs.Artifact.Accounts

/-!
# Rows that are not valid

The measurements of a table are those of the first valid row of each round. So rows that
are not valid can be put in, taken out and changed without any other trace than the
number of rows and of row errors, which change alike.
-/

namespace DeltaStudy.Artifact

/-- The measurement of a valid row that no valid row of the same round precedes. -/
def FirstValid (columns : Columns) (rows : List (List (List UInt8))) (measurement : Measurement) :
    Prop :=
  ∃ before row after, rows = before ++ row :: after ∧ readRecord columns row = .ok measurement
    ∧ ∀ earlier ∈ before, ∀ other, readRecord columns earlier = .ok other →
      other.round ≠ measurement.round

/-- The rows that are valid. -/
def validRows (columns : Columns) (rows : List (List (List UInt8))) : List (List (List UInt8)) :=
  rows.filter fun row => (readRecord columns row).toBool

/-- The measurement of a row, if the row is valid. -/
def measured? (columns : Columns) (row : List (List UInt8)) : Option Measurement :=
  (readRecord columns row).toOption

theorem measured?_eq_some_iff {columns : Columns} {row : List (List UInt8)}
    {measurement : Measurement} :
    measured? columns row = some measurement ↔ readRecord columns row = .ok measurement := by
  rw [measured?]
  cases readRecord columns row <;> simp [Except.toOption]

theorem valid_scanOf (columns : Columns) (bytes : List UInt8) :
    (scanOf columns bytes).valid = (rowsOf bytes).filterMap (measured? columns) :=
  List.filterMap_map

/-- Measurements are those of the valid rows. -/
theorem filterMap_validRows (columns : Columns) (rows : List (List (List UInt8))) :
    (validRows columns rows).filterMap (measured? columns)
      = rows.filterMap (measured? columns) := by
  rw [validRows, List.filterMap_filter]
  congr 1
  funext row
  rw [measured?]
  cases readRecord columns row <;> rfl

/-- A table with a valid row has a measurement. -/
theorem valid_scanOf_ne_nil {columns : Columns} {bytes : List UInt8}
    (nonempty : validRows columns (rowsOf bytes) ≠ []) : (scanOf columns bytes).valid ≠ [] := by
  obtain ⟨row, member⟩ := List.exists_mem_of_ne_nil _ nonempty
  obtain ⟨isRow, valid⟩ := List.mem_filter.mp member
  cases read : readRecord columns row with
  | error fault =>
    rw [read] at valid
    cases valid
  | ok measurement =>
    exact List.ne_nil_of_mem (mem_valid_scanOf_iff.mpr ⟨row, isRow, read⟩)

/-- The first measurement of a round is that of its first valid row. -/
theorem first_filterMap_iff {columns : Columns} {rows : List (List (List UInt8))}
    {measurement : Measurement} :
    First (rows.filterMap (measured? columns)) measurement
      ↔ FirstValid columns rows measurement := by
  constructor
  · rintro ⟨before, after, spelled, earliest⟩
    obtain ⟨front, back, rfl, rfl, behind⟩ := List.filterMap_eq_append_iff.mp spelled
    obtain ⟨invalid, row, rest, rfl, unmeasured, valid, -⟩ := List.filterMap_eq_cons_iff.mp behind
    refine ⟨front ++ invalid, row, rest, by simp, measured?_eq_some_iff.mp valid, ?_⟩
    intro earlier member other read
    have measured := measured?_eq_some_iff.mpr read
    rcases List.mem_append.mp member with inFront | inInvalid
    · exact earliest other (List.mem_filterMap.mpr ⟨earlier, inFront, measured⟩)
    · rw [unmeasured earlier inInvalid] at measured
      cases measured
  · rintro ⟨before, row, after, rfl, valid, earliest⟩
    refine ⟨before.filterMap (measured? columns), after.filterMap (measured? columns), ?_, ?_⟩
    · rw [List.filterMap_append, List.filterMap_cons_some (measured?_eq_some_iff.mpr valid)]
    · intro other member
      obtain ⟨earlier, inFront, measured⟩ := List.mem_filterMap.mp member
      exact earliest earlier inFront other (measured?_eq_some_iff.mp measured)

/-- What measurements hold of the rows that they were read from. -/
structure Measurements.HoldsFirst (columns : Columns) (rows : List (List (List UInt8)))
    (series : Measurements) : Prop where
  /-- Kept is the first valid row of a round, and nothing else. -/
  mem_iff : ∀ measurement, measurement ∈ series.records ↔ FirstValid columns rows measurement
  /-- There is one for every round of a valid row. -/
  covers : ∀ row ∈ rows, ∀ measurement, readRecord columns row = .ok measurement →
    ∃ kept ∈ series.records, kept.round = measurement.round
  /-- There is no second one. -/
  once : series.records.Pairwise fun earlier later => earlier.round ≠ later.round

theorem holdsFirst_account (artifact : Path) (columns : Columns) (bytes : List UInt8) :
    (Measurements.account artifact (scanOf columns bytes)).HoldsFirst columns (rowsOf bytes) := by
  refine ⟨fun measurement => ?_, ?_, ?_⟩
  · rw [← first_filterMap_iff, ← valid_scanOf]
    exact mem_normalize_iff
  · intro row isRow measurement valid
    exact exists_mem_normalize (mem_valid_scanOf_iff.mpr ⟨row, isRow, valid⟩)
  · exact (normalize_ascending _).imp UInt64.ne_of_lt

/-- What two tables with the same valid rows have in common. -/
structure Measurements.SameValid (left right : Measurements) : Prop where
  records_eq : left.records = right.records
  duplicatesDropped_eq : left.duplicatesDropped = right.duplicatesDropped
  /-- The numbers of rows differ as the numbers of row errors do. -/
  rowsRead_sub : (left.rowsRead : Int) - right.rowsRead
    = left.rowErrors.length - right.rowErrors.length

theorem sameValid_account {artifact artifact' : Path} {columns : Columns}
    {bytes bytes' : List UInt8}
    (same : (scanOf columns bytes).valid = (scanOf columns bytes').valid) :
    (Measurements.account artifact (scanOf columns bytes)).SameValid
      (Measurements.account artifact' (scanOf columns bytes')) := by
  have rows := (scanOf columns bytes).length_valid_add_length_errors
  have rows' := (scanOf columns bytes').length_valid_add_length_errors
  refine ⟨congrArg normalize same, congrArg duplicates same, ?_⟩
  simp only [Measurements.account]
  rw [same] at rows
  omega

/-- The measurements of a table with a valid row are those of the first valid row of
each round. Every table with the same header and the same valid rows has the same
measurements, whatever other rows there are. -/
theorem ofBytes_firstValid {artifact : Path} {bytes : List UInt8} {header : List String}
    {columns : Columns} (readable : headerOf? bytes = some header)
    (resolved : resolveColumns artifact header = .ok columns)
    (nonempty : validRows columns (rowsOf bytes) ≠ []) :
    ∃ series, Measurements.ofBytes artifact bytes = .ok series
      ∧ series.HoldsFirst columns (rowsOf bytes)
      ∧ ∀ artifact' bytes', headerOf? bytes' = some header →
          validRows columns (rowsOf bytes') = validRows columns (rowsOf bytes) →
          ∃ series', Measurements.ofBytes artifact' bytes' = .ok series'
            ∧ series.SameValid series' := by
  have someValid : (scanOf columns bytes).valid ≠ [] := valid_scanOf_ne_nil nonempty
  refine ⟨_, Measurements.ofBytes_eq_ok_iff.mpr ⟨_, _, readable, resolved, someValid, rfl⟩,
    holdsFirst_account artifact columns bytes, ?_⟩
  intro artifact' bytes' readable' sameRows
  have sameValid : (scanOf columns bytes).valid = (scanOf columns bytes').valid := by
    rw [valid_scanOf, valid_scanOf, ← filterMap_validRows, ← sameRows, filterMap_validRows]
  -- The columns do not depend on the name of the artifact.
  have resolved' : resolveColumns artifact' header = .ok columns :=
    resolveColumns_eq_ok_iff.mpr (resolveColumns_eq_ok_iff.mp resolved)
  exact ⟨_, Measurements.ofBytes_eq_ok_iff.mpr
    ⟨_, _, readable', resolved', sameValid ▸ someValid, rfl⟩, sameValid_account sameValid⟩

/-- One table has a spoiled row in front of the valid one of its round, the other has
it gone and other rows put in. -/
theorem ofBytes_firstValid_spoiled :
    let ascii (text : String) : List UInt8 := text.toList.map fun letter => .ofNat letter.toNat
    let bytes := ascii "round,difficulty\n3,none\n3,1.5\n1,2\n3,7\n"
    let bytes' := ascii "round,difficulty\n3,1.5\n2\n1,2\nx,1\n-1,1\n3,7\n"
    let columns : Columns := ⟨0, none, 1, false⟩
    headerOf? bytes = some ["round", "difficulty"]
    ∧ headerOf? bytes' = some ["round", "difficulty"]
    ∧ resolveColumns ⟨"a.csv"⟩ ["round", "difficulty"] = .ok columns
    ∧ validRows columns (rowsOf bytes) ≠ []
    ∧ validRows columns (rowsOf bytes') = validRows columns (rowsOf bytes)
    ∧ ∃ series, Measurements.ofBytes ⟨"a.csv"⟩ bytes = .ok series
      ∧ series.HoldsFirst columns (rowsOf bytes)
      ∧ ∃ series', Measurements.ofBytes ⟨"b.csv"⟩ bytes' = .ok series'
        ∧ series.SameValid series' := by
  intro ascii bytes bytes' columns
  have readable : headerOf? bytes = some ["round", "difficulty"] := by decide +kernel
  have readable' : headerOf? bytes' = some ["round", "difficulty"] := by decide +kernel
  have resolved : resolveColumns ⟨"a.csv"⟩ ["round", "difficulty"] = .ok columns := by
    decide +kernel
  have sameRows : validRows columns (rowsOf bytes') = validRows columns (rowsOf bytes) := by
    decide +kernel
  have nonempty : validRows columns (rowsOf bytes) ≠ [] := by decide +kernel
  obtain ⟨series, read, holds, others⟩ := ofBytes_firstValid readable resolved nonempty
  exact ⟨readable, readable', resolved, nonempty, sameRows, series, read, holds,
    others ⟨"b.csv"⟩ bytes' readable' sameRows⟩

end DeltaStudy.Artifact
