import Mathlib.Control.Monad.Basic
import DeltaStudy.Proofs.Failure
import DeltaStudy.Proofs.Protocol.Checks
import DeltaStudy.Proofs.Protocol.Names
import DeltaStudy.Protocol.Rows

/-!
# Merging protocol tables

Placing a row gives a new time to its name and to no other one. So merging a table
takes the time of a name from the last row that has the name, and keeps the time of a
name that no row has.

Look-up in a single table takes the first row of a name. The two agree unless a table
repeats a name with another time, which reading a table allows. A table that others
were merged into, beginning with the built-in one, repeats no name.
-/

namespace DeltaStudy.ProtocolTable

variable {name : String} {row : ProtocolRow} {rows others : List ProtocolRow}

/-- The time in the first row of a name. -/
def firstTime? (name : String) (rows : List ProtocolRow) : Option UInt64 :=
  (rows.find? fun row => row.name == name).map ProtocolRow.generationTime

/-- The time in the last row of a name. -/
def lastTime? (name : String) (rows : List ProtocolRow) : Option UInt64 :=
  firstTime? name rows.reverse

theorem generationTime?_eq (table : ProtocolTable) (tag : String) :
    table.generationTime? tag = firstTime? (normalizeProtocol tag) table.rows :=
  rfl

theorem firstTime?_cons :
    firstTime? name (row :: rows)
      = if row.name = name then some row.generationTime else firstTime? name rows := by
  by_cases same : row.name = name
  · simp [firstTime?, same]
  · simp [firstTime?, same]

theorem firstTime?_append :
    firstTime? name (rows ++ others) = (firstTime? name rows).or (firstTime? name others) := by
  simp [firstTime?, List.find?_append, Option.map_or]

theorem lastTime?_cons :
    lastTime? name (row :: rows) = (lastTime? name rows).or (firstTime? name [row]) := by
  rw [lastTime?, List.reverse_cons, firstTime?_append, lastTime?]

/-- A name has a last row exactly if it has a first one. -/
theorem lastTime?_eq_none_iff : lastTime? name rows = none ↔ firstTime? name rows = none := by
  simp [lastTime?, firstTime?]

/-- The last row of a name is one of its rows. -/
theorem exists_mem_of_lastTime? {time : UInt64} (last : lastTime? name rows = some time) :
    ∃ row ∈ rows, row.name = name ∧ row.generationTime = time := by
  obtain ⟨row, found, timed⟩ := Option.map_eq_some_iff.mp last
  have named := List.find?_some (p := fun row : ProtocolRow => row.name == name) found
  exact ⟨row, List.mem_reverse.mp (List.mem_of_find?_eq_some found), beq_iff_eq.mp named, timed⟩

/-! ## Placing rows -/

theorem firstTime?_placeRow :
    firstTime? name (placeRow row rows)
      = if row.name = name then some row.generationTime else firstTime? name rows := by
  induction rows with
  | nil => exact firstTime?_cons
  | cons head rest inductionHypothesis =>
    rw [placeRow]
    split
    case isTrue same =>
      rw [firstTime?_cons, firstTime?_cons, ← same]
      split
      · rfl
      · rfl
    case isFalse different =>
      rw [firstTime?_cons, firstTime?_cons, inductionHypothesis]
      split
      case isTrue found =>
        have other : row.name ≠ name := fun same => different (found.trans same.symm)
        rw [if_neg other]
      case isFalse => rfl

/-- Rows that are placed one after another give a name the time of its last row. -/
theorem firstTime?_foldl_placeRow :
    firstTime? name (others.foldl (fun rows row => placeRow row rows) rows)
      = (lastTime? name others).or (firstTime? name rows) := by
  induction others generalizing rows with
  | nil => rfl
  | cons row rest inductionHypothesis =>
    rw [List.foldl_cons, inductionHypothesis, lastTime?_cons, firstTime?_placeRow, firstTime?_cons]
    cases lastTime? name rest with
    | some time => rfl
    | none =>
      split
      · rfl
      · rfl

theorem generationTime?_extend (table other : ProtocolTable) (tag : String) :
    (table.extend other).generationTime? tag
      = (lastTime? (normalizeProtocol tag) other.rows).or (table.generationTime? tag) :=
  firstTime?_foldl_placeRow

/-- A table that another one is merged into answers with the last row that the other
one has for a tag. That is the answer of the other table itself if all its rows for the
tag agree. It keeps its own answer for a tag of which the other table has no row. -/
theorem generationTime?_extend_last (table other : ProtocolTable) (tag : String) :
    (∀ time, other.generationTime? tag = some time →
      ∃ last, lastTime? (normalizeProtocol tag) other.rows = some last
        ∧ (table.extend other).generationTime? tag = some last
        ∧ ((∀ row ∈ other.rows, row.name = normalizeProtocol tag → row.generationTime = time) →
          last = time))
    ∧ (other.generationTime? tag = none →
      (table.extend other).generationTime? tag = table.generationTime? tag) := by
  rw [generationTime?_extend]
  constructor
  · intro time found
    cases last : lastTime? (normalizeProtocol tag) other.rows with
    | none =>
      rw [generationTime?_eq, lastTime?_eq_none_iff.mp last] at found
      cases found
    | some time' =>
      obtain ⟨row, member, named, timed⟩ := exists_mem_of_lastTime? last
      exact ⟨time', rfl, rfl, fun agree => timed.symm.trans (agree row member named)⟩
  · intro missing
    rw [lastTime?_eq_none_iff.mpr missing, Option.none_or]

/-- A table that is read with two times for one name answers with the first one, and a
table that it is merged into with the second one. -/
theorem generationTime?_extend_repeated :
    ∃ other, ofJson "[[\"x\",1],[\"x\",2]]" = .ok other
      ∧ other.generationTime? "x" = some 1
      ∧ (builtin.extend other).generationTime? "x" = some 2 :=
  ⟨⟨[⟨"x", 1⟩, ⟨"x", 2⟩]⟩, by decide +kernel⟩

/-! ## Tables that others were merged into -/

theorem names_placeRow :
    (placeRow row rows).map ProtocolRow.name
      = if row.name ∈ rows.map ProtocolRow.name then rows.map ProtocolRow.name
        else rows.map ProtocolRow.name ++ [row.name] := by
  induction rows with
  | nil => rfl
  | cons head rest inductionHypothesis =>
    rw [placeRow]
    split
    case isTrue same => simp [same]
    case isFalse different =>
      rw [List.map_cons, inductionHypothesis]
      have other : row.name ≠ head.name := fun same => different same.symm
      by_cases known : row.name ∈ rest.map ProtocolRow.name
      · rw [if_pos known, List.map_cons, if_pos (List.mem_cons_of_mem _ known)]
      · rw [if_neg known, List.map_cons, if_neg (by simp [other, known]), List.cons_append]

/-- A row is placed with its time, and the other rows keep theirs. -/
theorem eq_or_mem_of_mem_placeRow {placed : ProtocolRow} (member : placed ∈ placeRow row rows) :
    placed.generationTime = row.generationTime ∨ placed ∈ rows := by
  induction rows with
  | nil => exact .inl (congrArg _ (List.mem_singleton.mp member))
  | cons head rest inductionHypothesis =>
    rw [placeRow] at member
    split at member
    case isTrue =>
      rcases List.mem_cons.mp member with rfl | later
      · exact .inl rfl
      · exact .inr (List.mem_cons_of_mem _ later)
    case isFalse =>
      rcases List.mem_cons.mp member with rfl | later
      · exact .inr List.mem_cons_self
      · exact (inductionHypothesis later).imp_right (List.mem_cons_of_mem _)

/-- A name behind others is new among them or adds nothing. -/
theorem eraseDups_concat (names : List String) (name : String) :
    (names ++ [name]).eraseDups
      = if name ∈ names.eraseDups then names.eraseDups else names.eraseDups ++ [name] := by
  rw [List.eraseDups_append]
  by_cases known : name ∈ names
  · simp [known, List.removeAll]
  · simp [known, List.removeAll, List.eraseDups_cons]

/-- What a table is that came about by placing rows one after another. -/
structure Reflects (table : ProtocolTable) (listed : List ProtocolRow) : Prop where
  /-- The names stand in the order in which they first appear. -/
  names_eq : table.names = (listed.map ProtocolRow.name).eraseDups
  /-- No name is repeated. -/
  apart : table.names.Nodup
  /-- Names have their compared form. -/
  normalized : ∀ name ∈ table.names, normalizeProtocol name = name
  /-- Every row has a time. -/
  positive : ∀ row ∈ table.rows, 0 < row.generationTime
  /-- The last row for a tag has the answer. -/
  last : ∀ tag, table.generationTime? tag
    = (listed.reverse.find? fun row => normalizeProtocol row.name == normalizeProtocol tag).map
        ProtocolRow.generationTime

/-- A row that reading a table may give. -/
def IsSettled (row : ProtocolRow) : Prop :=
  normalizeProtocol row.name = row.name ∧ 0 < row.generationTime

/-- Placing a row keeps what a table is. -/
theorem Reflects.placeRow {listed : List ProtocolRow} (reflects : Reflects ⟨rows⟩ listed)
    (settled : IsSettled row) : Reflects ⟨placeRow row rows⟩ (listed ++ [row]) := by
  obtain ⟨names_eq, apart, normalized, positive, last⟩ := reflects
  obtain ⟨named, timed⟩ := settled
  have placed : (ProtocolTable.mk (ProtocolTable.placeRow row rows)).names
      = if row.name ∈ (ProtocolTable.mk rows).names then (ProtocolTable.mk rows).names
        else (ProtocolTable.mk rows).names ++ [row.name] :=
    names_placeRow
  refine ⟨?_, ?_, ?_, ?_, ?_⟩
  · rw [placed, names_eq, List.map_append, List.map_singleton, eraseDups_concat]
  · rw [placed]
    split
    · exact apart
    case isFalse unknown =>
      exact List.nodup_append.mpr ⟨apart, List.pairwise_singleton _ _, fun name member other same =>
        fun equal => unknown (List.mem_singleton.mp same ▸ equal ▸ member)⟩
  · intro name member
    rw [placed] at member
    split at member
    · exact normalized name member
    · rcases List.mem_append.mp member with old | new
      · exact normalized name old
      · rw [List.mem_singleton.mp new]
        exact named
  · intro placed member
    rcases eq_or_mem_of_mem_placeRow member with same | old
    · rw [same]
      exact timed
    · exact positive placed old
  · intro tag
    rw [generationTime?_eq, firstTime?_placeRow, List.reverse_append, List.reverse_singleton,
      List.singleton_append, List.find?_cons, named]
    by_cases same : row.name = normalizeProtocol tag
    · simp [same]
    · rw [if_neg same, beq_eq_false_iff_ne.mpr same]
      exact last tag

/-- Merging a table whose rows may have been read keeps what a table is. -/
theorem Reflects.extend {table other : ProtocolTable} {listed : List ProtocolRow}
    (reflects : table.Reflects listed) (settled : ∀ row ∈ other.rows, IsSettled row) :
    (table.extend other).Reflects (listed ++ other.rows) := by
  obtain ⟨rows⟩ := table
  obtain ⟨others⟩ := other
  show Reflects ⟨others.foldl (fun rows row => ProtocolTable.placeRow row rows) rows⟩
    (listed ++ others)
  induction others generalizing rows listed with
  | nil => simpa using reflects
  | cons row rest inductionHypothesis =>
    rw [List.append_cons]
    exact inductionHypothesis _ (reflects.placeRow (settled row List.mem_cons_self))
      fun later member => settled later (List.mem_cons_of_mem _ member)

/-- Merging tables one after another keeps what a table is. -/
theorem Reflects.foldl_extend {table : ProtocolTable} {listed : List ProtocolRow}
    {others : List ProtocolTable} (reflects : table.Reflects listed)
    (settled : ∀ other ∈ others, ∀ row ∈ other.rows, IsSettled row) :
    (others.foldl ProtocolTable.extend table).Reflects
      (listed ++ others.flatMap ProtocolTable.rows) := by
  induction others generalizing table listed with
  | nil => simpa using reflects
  | cons other rest inductionHypothesis =>
    rw [List.flatMap_cons, ← List.append_assoc]
    exact inductionHypothesis (reflects.extend (settled other List.mem_cons_self))
      fun later member => settled later (List.mem_cons_of_mem _ member)

/-- The built-in table is what its own rows make of a table without rows. -/
theorem reflects_builtin : builtin.Reflects builtin.rows := by
  have empty : (ProtocolTable.mk []).Reflects [] :=
    ⟨rfl, List.nodup_nil, by simp [names], by simp, by simp [generationTime?_eq, firstTime?]⟩
  have settled : ∀ row ∈ builtin.rows,
      normalizeProtocol row.name = row.name ∧ 0 < row.generationTime := by
    decide +kernel
  have made : (ProtocolTable.mk []).extend builtin = builtin := by decide +kernel
  have reflects := empty.extend settled
  rwa [made, List.nil_append] at reflects

/-- The rows of a table that was read have names in their compared form and times. -/
theorem settled_of_ofJson {text : String} {table : ProtocolTable}
    (read : ofJson text = .ok table) : ∀ row ∈ table.rows, IsSettled row := by
  rw [ofJson] at read
  split at read
  · cases read
  · split at read
    · cases read
    · obtain ⟨_, checked, made⟩ := bind_eq_ok_iff.mp read
      cases made
      intro row member
      obtain ⟨written, listed, rfl⟩ := List.mem_map.mp member
      have usable := checkRows_eq_ok_iff.mp checked written listed
      exact ⟨normalizeProtocol_normalizeProtocol _, usable.timed⟩

/-- Tables that were read and merged into the built-in one: what there is for each name,
in which order, and what is answered for a tag, however it is written. -/
theorem reflects_of_read {others : List ProtocolTable}
    (read : ∀ other ∈ others, ∃ text, ofJson text = .ok other) :
    (others.foldl ProtocolTable.extend builtin).Reflects
      (builtin.rows ++ others.flatMap ProtocolTable.rows)
    ∧ (∀ (tag : String) (front variant back : List Char),
        (∀ character ∈ front ++ back, Text.isBlank character = true) →
        variant.map Char.toLower = tag.toList.map Char.toLower →
        (others.foldl ProtocolTable.extend builtin).generationTime?
            (String.ofList (front ++ variant ++ back))
          = (others.foldl ProtocolTable.extend builtin).generationTime? tag)
    ∧ ∀ tag, (others.foldl ProtocolTable.extend builtin).resolve tag none ≠ .ok 0 := by
  have reflects := reflects_builtin.foldl_extend fun other member row inOther =>
    let ⟨_, ofText⟩ := read other member
    settled_of_ofJson ofText row inOther
  refine ⟨reflects, ?_, ?_⟩
  · intro tag front variant back blanks cased
    rw [generationTime?_eq, normalizeProtocol_padded blanks cased, generationTime?_eq]
  · intro tag resolved
    rw [resolve] at resolved
    split at resolved
    case h_1 time found =>
      obtain ⟨row, inTable, timed⟩ := Option.map_eq_some_iff.mp found
      have positive := reflects.positive row (List.mem_of_find?_eq_some inTable)
      rw [timed, Except.ok.inj resolved] at positive
      exact absurd positive (UInt64.lt_irrefl 0)
    case h_2 => cases resolved

/-- Two tables that were read, one of which repeats a name. -/
theorem reflects_of_read_repeated :
    (∀ other ∈ [⟨[⟨"x", 1⟩, ⟨"x", 2⟩]⟩, ⟨[⟨"bitcoin", 3⟩]⟩],
        ∃ text, ofJson text = .ok other)
    ∧ ∀ tag, ([⟨[⟨"x", 1⟩, ⟨"x", 2⟩]⟩, ⟨[⟨"bitcoin", 3⟩]⟩].foldl ProtocolTable.extend
        builtin).resolve tag none ≠ .ok 0 := by
  have read : ∀ other ∈ [⟨[⟨"x", 1⟩, ⟨"x", 2⟩]⟩, ⟨[⟨"bitcoin", 3⟩]⟩],
      ∃ text, ofJson text = .ok other := by
    refine List.forall_mem_cons.mpr ⟨⟨"[[\"x\",1],[\"X \",2]]", by decide +kernel⟩, ?_⟩
    exact List.forall_mem_singleton.mpr ⟨"[[\"bitcoin\",3]]", by decide +kernel⟩
  exact ⟨read, (reflects_of_read read).2.2⟩

end DeltaStudy.ProtocolTable
