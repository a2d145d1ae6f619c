import DeltaStudy.Proofs.Text.Blanks
import DeltaStudy.Protocol.Table

/-!
# Rows that a table accepts

Rows are accepted if every one has a name with more than blanks in it and a time that is not
zero. Otherwise the first row that lacks one of them is to blame, and its name before its time.
-/

namespace DeltaStudy

/-- A row with a name that is not blank and a time that is not zero. -/
structure ProtocolRow.IsUsable (row : ProtocolRow) : Prop where
  named : ∃ character ∈ row.name.toList, Text.isBlank character = false
  timed : 0 < row.generationTime

namespace ProtocolTable

variable {row : ProtocolRow} {rows before : List ProtocolRow}

/-- A row has a name unless there is nothing but blanks in it. -/
theorem trim_name_eq_empty_iff :
    Text.trim row.name = "" ↔ ¬ ∃ character ∈ row.name.toList, Text.isBlank character = false := by
  rw [Text.trim, String.ofList_eq_empty_iff, Text.trimmed_eq_nil_iff]
  simp

/-- A usable row is passed over. -/
theorem checkRows_cons_of_isUsable (usable : row.IsUsable) :
    checkRows (row :: rows) = checkRows rows := by
  have timed := UInt64.pos_iff_ne_zero.mp usable.timed
  rw [checkRows, if_neg (mt trim_name_eq_empty_iff.mp (not_not.mpr usable.named)), if_neg timed]

theorem checkRows_append_of_isUsable (usable : ∀ row ∈ before, row.IsUsable) :
    checkRows (before ++ rows) = checkRows rows := by
  induction before with
  | nil => rfl
  | cons row before inductionHypothesis =>
    obtain ⟨first, others⟩ := List.forall_mem_cons.mp usable
    rw [List.cons_append, checkRows_cons_of_isUsable first, inductionHypothesis others]

/-- A row without a name is to blame for that, whatever its time is. -/
theorem checkRows_cons_of_unnamed
    (unnamed : ∀ character ∈ row.name.toList, Text.isBlank character = true) :
    checkRows (row :: rows) = .error .unnamedProtocol := by
  refine if_pos (trim_name_eq_empty_iff.mpr ?_)
  rintro ⟨character, member, visible⟩
  rw [unnamed character member] at visible
  cases visible

/-- A row with a name is to blame for a time of zero. -/
theorem checkRows_cons_of_timeless
    (named : ∃ character ∈ row.name.toList, Text.isBlank character = false)
    (timeless : row.generationTime = 0) :
    checkRows (row :: rows) = .error (.zeroGenerationTime row.name) := by
  rw [checkRows, if_neg (mt trim_name_eq_empty_iff.mp (not_not.mpr named)), if_pos timeless]

/-- Rows are accepted exactly if every one is usable. -/
theorem checkRows_eq_ok_iff : checkRows rows = .ok () ↔ ∀ row ∈ rows, row.IsUsable := by
  induction rows with
  | nil => simp [checkRows]
  | cons row rest inductionHypothesis =>
    rw [List.forall_mem_cons, ← inductionHypothesis]
    by_cases named : ∃ character ∈ row.name.toList, Text.isBlank character = false
    · by_cases timeless : row.generationTime = 0
      · rw [checkRows_cons_of_timeless named timeless]
        refine ⟨nofun, fun ⟨usable, _⟩ => ?_⟩
        exact absurd timeless (UInt64.pos_iff_ne_zero.mp usable.timed)
      · have usable : row.IsUsable := ⟨named, UInt64.pos_iff_ne_zero.mpr timeless⟩
        rw [checkRows_cons_of_isUsable usable]
        exact ⟨fun accepted => ⟨usable, accepted⟩, And.right⟩
    · rw [checkRows, if_pos (trim_name_eq_empty_iff.mpr named)]
      exact ⟨nofun, fun ⟨usable, _⟩ => absurd usable.named named⟩

/-- Only a configuration is ever to blame. -/
theorem kind_of_checkRows {failure : Failure} (rejected : checkRows rows = .error failure) :
    failure.kind = .configuration := by
  induction rows with
  | nil => cases rejected
  | cons row rest inductionHypothesis =>
    rw [checkRows] at rejected
    split at rejected
    · cases rejected
      rfl
    · split at rejected
      · cases rejected
        rfl
      · exact inductionHypothesis rejected

end ProtocolTable

end DeltaStudy
