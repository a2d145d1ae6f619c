import Mathlib.Data.List.Induction
import DeltaStudy.Artifact.Columns

/-!
# Which columns are resolved

A field has the last column that bears its name. Resolved columns are in the table and
no two fields share one, because a named column bears only one name and a column that
fills a gap was free.

The name of an artifact is only told in failures.
-/

namespace DeltaStudy.Artifact

theorem Field.name_injective {left right : Field} (same : left.name = right.name) :
    left = right := by
  cases left <;> cases right <;> revert same <;> decide

/-! ## Named columns -/

/-- A column at a place of a header that bears the name of a field, with no later one
that does. -/
def Bears (header : List String) (field : Field) (column : Nat) : Prop :=
  ∃ before name after, header = before ++ name :: after ∧ before.length = column
    ∧ normalizeName name = field.name ∧ ∀ later ∈ after, normalizeName later ≠ field.name

theorem namedColumn?_nil (field : Field) : namedColumn? [] field = none :=
  rfl

/-- The last column counts if it bears the name, and else the columns before it do. -/
theorem namedColumn?_concat (header : List String) (last : String) (field : Field) :
    namedColumn? (header ++ [last]) field =
      if normalizeName last = field.name then some header.length
      else namedColumn? header field := by
  simp only [namedColumn?, List.zipIdx_append, List.filter_append, List.map_append,
    List.zipIdx_singleton, Nat.zero_add]
  split
  case isTrue named => simp [named]
  case isFalse unnamed => simp [unnamed]

/-- A field has the last column that bears its name. -/
theorem namedColumn?_eq_some_iff {header : List String} {field : Field} {column : Nat} :
    namedColumn? header field = some column ↔ Bears header field column := by
  induction header using List.reverseRecOn with
  | nil => simp [namedColumn?_nil, Bears]
  | append_singleton header last inductionHypothesis =>
    rw [namedColumn?_concat]
    constructor
    · split
      case isTrue named =>
        rintro ⟨rfl⟩
        exact ⟨header, last, [], rfl, rfl, named, by simp⟩
      case isFalse unnamed =>
        intro earlier
        obtain ⟨before, name, after, rfl, place, named, latest⟩ :=
          inductionHypothesis.mp earlier
        refine ⟨before, name, after ++ [last], by simp, place, named, ?_⟩
        exact List.forall_mem_append.mpr ⟨latest, by simpa using unnamed⟩
    · rintro ⟨before, name, after, spelled, place, named, latest⟩
      rcases List.eq_nil_or_concat after with rfl | ⟨between, final, rfl⟩
      · obtain ⟨rfl, same⟩ := List.append_inj' spelled rfl
        obtain rfl := List.singleton_inj.mp same
        rw [if_pos named, place]
      · rw [List.concat_eq_append, ← List.cons_append, ← List.append_assoc] at spelled
        obtain ⟨rfl, same⟩ := List.append_inj' spelled rfl
        obtain rfl := List.singleton_inj.mp same
        rw [List.concat_eq_append, List.forall_mem_append] at latest
        rw [if_neg (latest.2 last List.mem_cons_self)]
        exact inductionHypothesis.mpr ⟨before, name, between, rfl, place, named, latest.1⟩

/-- A column with the name of a field. -/
def Carries (header : List String) (field : Field) (column : Nat) : Prop :=
  header[column]?.map normalizeName = some field.name

instance (header : List String) (field : Field) (column : Nat) :
    Decidable (Carries header field column) :=
  inferInstanceAs (Decidable (_ = _))

theorem Carries.lt_length {header : List String} {field : Field} {column : Nat}
    (carries : Carries header field column) : column < header.length := by
  obtain ⟨name, found, -⟩ := Option.map_eq_some_iff.mp carries
  exact (List.getElem?_eq_some_iff.mp found).1

/-- A column that is alone with the name of a field is the one that the field has. -/
theorem namedColumn?_of_unique {header : List String} {field : Field} {column : Nat}
    (carries : Carries header field column)
    (unique : ∀ other, Carries header field other → other = column) :
    namedColumn? header field = some column := by
  obtain ⟨name, found, named⟩ := Option.map_eq_some_iff.mp carries
  obtain ⟨inside, spelled⟩ := List.getElem?_eq_some_iff.mp found
  refine namedColumn?_eq_some_iff.mpr ⟨header.take column, name, header.drop (column + 1), ?_,
    List.length_take_of_le (Nat.le_of_lt inside), named, fun later member same => ?_⟩
  · rw [← spelled, List.getElem_cons_drop, List.take_append_drop]
  · obtain ⟨index, isLater⟩ := List.getElem?_of_mem member
    rw [List.getElem?_drop] at isLater
    have behind := unique (column + 1 + index) (by rw [Carries, isLater, Option.map_some, same])
    omega

theorem Bears.lt_length {header : List String} {field : Field} {column : Nat}
    (bears : Bears header field column) : column < header.length := by
  obtain ⟨before, name, after, rfl, rfl, -⟩ := bears
  simp

/-- A column bears one name. -/
theorem Bears.unique {header : List String} {left right : Field} {column : Nat}
    (leftBears : Bears header left column) (rightBears : Bears header right column) :
    left = right := by
  obtain ⟨before, name, after, rfl, rfl, leftNamed, -⟩ := leftBears
  obtain ⟨before', name', after', spelled, place, rightNamed, -⟩ := rightBears
  obtain ⟨-, same⟩ := List.append_inj spelled place.symm
  obtain ⟨rfl, -⟩ := List.cons.inj same
  exact Field.name_injective (leftNamed.symm.trans rightNamed)

/-- The columns that are not given away, because a field has them by name. -/
def namedColumns (header : List String) : List Nat :=
  [namedColumn? header .round, namedColumn? header .difficulty,
    namedColumn? header .miningTime].filterMap id

theorem Bears.mem_namedColumns {header : List String} {field : Field} {column : Nat}
    (bears : Bears header field column) : column ∈ namedColumns header := by
  have named := namedColumn?_eq_some_iff.mpr bears
  cases field <;> simp [namedColumns, named]

/-! ## Columns that fill gaps -/

theorem freeColumn?_eq_some {count preferred column : Nat} {taken : List Nat}
    (free : freeColumn? count taken preferred = some column) :
    column < count ∧ column ∉ taken := by
  unfold freeColumn? at free
  split at free
  case isTrue fits =>
    cases free
    simpa using fits
  case isFalse =>
    have found := List.find?_some free
    have member := List.mem_range.mp (List.mem_of_find?_eq_some free)
    exact ⟨member, by simpa using found⟩

/-- A field has a column by its name, or else because it was free. -/
def Settled (header : List String) (taken : List Nat) (preferred : Nat) (field : Field)
    (column : Nat) : Prop :=
  namedColumn? header field = some column
    ∨ (namedColumn? header field = none
        ∧ freeColumn? header.length taken preferred = some column)

section Settled

variable {header : List String} {taken taken' : List Nat} {preferred preferred' : Nat}
  {field other : Field} {column column' : Nat}

theorem Settled.lt_length (settled : Settled header taken preferred field column) :
    column < header.length := by
  rcases settled with named | ⟨-, free⟩
  · exact (namedColumn?_eq_some_iff.mp named).lt_length
  · exact (freeColumn?_eq_some free).1

/-- Two fields do not share a column if named columns were not free for the first one,
and its column was not free for the second one. -/
theorem Settled.ne (settled : Settled header taken preferred field column)
    (settled' : Settled header taken' preferred' other column') (different : field ≠ other)
    (kept : namedColumns header ⊆ taken) (given : column ∈ taken') : column ≠ column' := by
  rintro rfl
  rcases settled' with named' | ⟨-, free'⟩
  · have bears' := namedColumn?_eq_some_iff.mp named'
    rcases settled with named | ⟨-, free⟩
    · exact different ((namedColumn?_eq_some_iff.mp named).unique bears')
    · exact (freeColumn?_eq_some free).2 (kept bears'.mem_namedColumns)
  · exact (freeColumn?_eq_some free').2 given

end Settled

theorem requiredColumn_eq_ok_iff {artifact : Path} {header : List String} {taken : List Nat}
    {preferred column : Nat} {field : Field} :
    requiredColumn artifact header.length taken preferred field (namedColumn? header field)
        = .ok column
      ↔ Settled header taken preferred field column := by
  rw [Settled]
  cases namedColumn? header field with
  | some found => simp [requiredColumn]
  | none =>
    rw [requiredColumn]
    cases freeColumn? header.length taken preferred with
    | some found => simp
    | none => simp

theorem requiredColumn_error_kind {artifact : Path} {count preferred : Nat} {taken : List Nat}
    {field : Field} {named : Option Nat} {failure : Failure}
    (refused : requiredColumn artifact count taken preferred field named = .error failure) :
    failure.kind = .dataFormat := by
  unfold requiredColumn at refused
  split at refused
  · cases refused
  · split at refused
    · cases refused
    · cases refused
      rfl

/-! ## Resolved columns -/

/-- The columns that feed fields. -/
def Columns.used (columns : Columns) : List Nat :=
  columns.round :: columns.difficulty :: columns.miningTime.toList

/-- Whether a field that has to be there has no named column. -/
def lacksColumn (header : List String) : Bool :=
  (namedColumn? header .round).isNone || (namedColumn? header .difficulty).isNone

/-- The column of the mining times, once the other two are settled. -/
def miningTimeColumn? (header : List String) (round difficulty : Nat) : Option Nat :=
  match namedColumn? header .miningTime with
  | some column => some column
  | none =>
    if lacksColumn header then
      freeColumn? header.length (difficulty :: round :: namedColumns header) 2
    else none

/-- Columns are resolved field by field, unless there are too few of them. -/
theorem resolveColumns_eq (artifact : Path) (header : List String) :
    resolveColumns artifact header =
      if lacksColumn header && header.length < 2 then .error (.tooFewColumns artifact header.length)
      else match requiredColumn artifact header.length (namedColumns header) 0 .round
          (namedColumn? header .round) with
        | .error failure => .error failure
        | .ok round => match requiredColumn artifact header.length (round :: namedColumns header) 1
            .difficulty (namedColumn? header .difficulty) with
          | .error failure => .error failure
          | .ok difficulty => .ok
            ⟨round, miningTimeColumn? header round difficulty, difficulty, lacksColumn header⟩ := by
  simp only [resolveColumns, bind, Except.bind, pure, Except.pure, throw, throwThe,
    MonadExceptOf.throw, namedColumns, lacksColumn, miningTimeColumn?]
  refine ite_congr rfl (fun _ => rfl) fun _ => ?_
  cases requiredColumn artifact header.length _ 0 .round (namedColumn? header .round) with
  | error failure => rfl
  | ok round =>
    simp only
    cases requiredColumn artifact header.length _ 1 .difficulty
        (namedColumn? header .difficulty) with
    | error failure => rfl
    | ok difficulty => rfl

/-- How columns are resolved. The name of the artifact is not asked for. -/
structure Resolved (header : List String) (columns : Columns) : Prop where
  positional_eq : columns.positional = lacksColumn header
  /-- Where positions fill gaps there are two columns. -/
  wide : lacksColumn header = true → 2 ≤ header.length
  round : Settled header (namedColumns header) 0 .round columns.round
  difficulty : Settled header (columns.round :: namedColumns header) 1 .difficulty
    columns.difficulty
  miningTime_eq : columns.miningTime = miningTimeColumn? header columns.round columns.difficulty

theorem resolveColumns_eq_ok_iff {artifact : Path} {header : List String} {columns : Columns} :
    resolveColumns artifact header = .ok columns ↔ Resolved header columns := by
  rw [resolveColumns_eq]
  constructor
  · split
    case isTrue => intro refused; cases refused
    case isFalse wide =>
      split
      case h_1 => intro refused; cases refused
      case h_2 round settled =>
        split
        case h_1 => intro refused; cases refused
        case h_2 difficulty settled' =>
          rintro ⟨rfl⟩
          refine ⟨rfl, fun lacks => Nat.le_of_not_lt fun narrow => wide ?_,
            requiredColumn_eq_ok_iff.mp settled, requiredColumn_eq_ok_iff.mp settled', rfl⟩
          rw [lacks, decide_eq_true narrow, Bool.and_self]
  · rintro ⟨positional, wide, round, difficulty, miningTime⟩
    have enough : ¬ (lacksColumn header && decide (header.length < 2)) = true := by
      rw [Bool.and_eq_true, decide_eq_true_eq]
      exact fun narrow => Nat.not_lt.mpr (wide narrow.1) narrow.2
    rw [if_neg enough, requiredColumn_eq_ok_iff.mpr round]
    simp only [requiredColumn_eq_ok_iff.mpr difficulty, ← positional, ← miningTime]

/-- Columns that are all found by name. -/
def Columns.named (place : Field → Nat) : Columns :=
  ⟨place .round, some (place .miningTime), place .difficulty, false⟩

/-- Columns that all have names are resolved without positions. -/
theorem resolveColumns_of_named {header : List String} {place : Field → Nat}
    (named : ∀ field, namedColumn? header field = some (place field)) (artifact : Path) :
    resolveColumns artifact header = .ok (.named place) := by
  have complete : lacksColumn header = false := by simp [lacksColumn, named]
  refine resolveColumns_eq_ok_iff.mpr ⟨complete.symm, by simp [complete], .inl (named _),
    .inl (named _), ?_⟩
  simp [Columns.named, miningTimeColumn?, named]

theorem resolveColumns_error_kind {artifact : Path} {header : List String} {failure : Failure}
    (refused : resolveColumns artifact header = .error failure) : failure.kind = .dataFormat := by
  rw [resolveColumns_eq] at refused
  split at refused
  · cases refused
    rfl
  split at refused
  case h_1 cause unsettled =>
    cases refused
    exact requiredColumn_error_kind unsettled
  split at refused
  case h_1 cause unsettled =>
    cases refused
    exact requiredColumn_error_kind unsettled
  · cases refused

theorem settled_of_miningTimeColumn? {header : List String} {round difficulty column : Nat}
    (found : miningTimeColumn? header round difficulty = some column) :
    Settled header (difficulty :: round :: namedColumns header) 2 .miningTime column := by
  unfold miningTimeColumn? at found
  split at found
  case h_1 named => exact .inl (named.trans found)
  case h_2 unnamed =>
    split at found
    · exact .inr ⟨unnamed, found⟩
    · cases found

namespace Resolved

variable {header : List String} {columns : Columns} (resolved : Resolved header columns)
include resolved

theorem miningTime_settled {column : Nat} (timed : columns.miningTime = some column) :
    Settled header (columns.difficulty :: columns.round :: namedColumns header) 2 .miningTime
      column :=
  settled_of_miningTimeColumn? (resolved.miningTime_eq ▸ timed)

/-- Resolved columns are in the table. -/
theorem used_lt : ∀ column ∈ columns.used, column < header.length := by
  intro column used
  rw [Columns.used, List.mem_cons, List.mem_cons, Option.mem_toList] at used
  rcases used with rfl | rfl | timed
  · exact resolved.round.lt_length
  · exact resolved.difficulty.lt_length
  · exact (resolved.miningTime_settled timed).lt_length

/-- No two fields share a column. -/
theorem used_nodup : columns.used.Nodup := by
  have roundDifficulty : columns.round ≠ columns.difficulty :=
    resolved.round.ne resolved.difficulty (by decide) (List.Subset.refl _) (by simp)
  cases timed : columns.miningTime with
  | none => simpa [Columns.used, timed] using roundDifficulty
  | some column =>
    have settled := resolved.miningTime_settled timed
    have roundTime : columns.round ≠ column :=
      resolved.round.ne settled (by decide) (List.Subset.refl _) (by simp)
    have difficultyTime : columns.difficulty ≠ column :=
      resolved.difficulty.ne settled (by decide) (List.subset_cons_self _ _) (by simp)
    simp [Columns.used, timed, roundDifficulty, roundTime, difficultyTime]

end Resolved

end DeltaStudy.Artifact
