import DeltaStudy.Proofs.Text.Blanks
import DeltaStudy.Protocol.Table

/-!
# Names of protocols

The compared form of a protocol tag is its own compared form, it is shared by all tags
that differ in the case of letters of ASCII and in blanks around them, and it is empty
exactly if there is nothing but blanks in the tag. A time resolves if one was asked for that is
not zero, or if none was asked for and the table knows the protocol.
-/

namespace DeltaStudy

theorem normalizeProtocol_normalizeProtocol (tag : String) :
    normalizeProtocol (normalizeProtocol tag) = normalizeProtocol tag := by
  have lower : Char.toLower ∘ Char.toLower = Char.toLower := funext Text.toLower_toLower
  simp only [normalizeProtocol, Text.lowercase, Text.trim, String.toList_ofList,
    Text.trimmed_map_toLower, Text.trimmed_trimmed, List.map_map, lower]

/-- Tags have one compared form if they differ in blanks around them and in case. -/
theorem normalizeProtocol_padded {tag : String} {front variant back : List Char}
    (blanks : ∀ character ∈ front ++ back, Text.isBlank character = true)
    (cased : variant.map Char.toLower = tag.toList.map Char.toLower) :
    normalizeProtocol (String.ofList (front ++ variant ++ back)) = normalizeProtocol tag := by
  obtain ⟨allFront, allBack⟩ := List.forall_mem_append.mp blanks
  simp only [normalizeProtocol, Text.lowercase, Text.trim, String.toList_ofList,
    Text.trimmed_padded variant allFront allBack, ← Text.trimmed_map_toLower, cased]

/-- The compared form of a tag is empty if nothing is left of the tag without blanks. -/
theorem normalizeProtocol_eq_empty_iff (tag : String) :
    normalizeProtocol tag = "" ↔ Text.trim tag = "" := by
  simp [normalizeProtocol, Text.lowercase, Text.trim, String.ofList_eq_empty_iff]

/-- No slash comes into a tag by comparing it. -/
theorem slash_notMem_normalizeProtocol {tag : String} (clear : '/' ∉ tag.toList) :
    '/' ∉ (normalizeProtocol tag).toList := by
  intro member
  rw [normalizeProtocol, Text.lowercase, Text.trim, String.toList_ofList, String.toList_ofList]
    at member
  obtain ⟨character, kept, slash⟩ := List.mem_map.mp member
  rw [Text.eq_slash_of_toLower slash] at kept
  exact clear (Text.mem_of_mem_trimmed kept)

/-- A time resolves for a protocol in compared form if one was asked for that is not
zero, or if none was asked for and the first row of that name has it. -/
theorem ProtocolTable.resolve_ok_iff {table : ProtocolTable} {tag : String}
    {override : Option UInt64} {generationTime : UInt64} :
    table.resolve (normalizeProtocol tag) override = .ok generationTime ↔
      (override = some generationTime ∧ 0 < generationTime)
      ∨ (override = none ∧ ∃ row, table.rows.find? (·.name == normalizeProtocol tag) = some row
          ∧ row.generationTime = generationTime) := by
  cases override with
  | some time =>
    rw [ProtocolTable.resolve]
    by_cases zero : time = 0
    · simp only [if_pos zero, reduceCtorEq, false_and, or_false, Option.some.injEq, false_iff]
      rintro ⟨rfl, positive⟩
      exact absurd zero (UInt64.pos_iff_ne_zero.mp positive)
    · have positive := UInt64.pos_iff_ne_zero.mpr zero
      simp only [if_neg zero, Except.ok.injEq, reduceCtorEq, false_and, or_false,
        Option.some.injEq]
      exact ⟨fun same => ⟨same, same ▸ positive⟩, And.left⟩
  | none =>
    rw [ProtocolTable.resolve, ProtocolTable.generationTime?, normalizeProtocol_normalizeProtocol]
    cases table.rows.find? (·.name == normalizeProtocol tag) with
    | none => simp
    | some row => simp

end DeltaStudy
