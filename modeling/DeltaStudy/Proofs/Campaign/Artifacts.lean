import DeltaStudy.Proofs.Campaign.Acceptance

/-!
# What the name of an artifact says

The name of an artifact can be taken apart again. The text of a positive value has no dash,
so what stands behind the last dash of a name is the value and what stands before it is the
protocol, dashes and all. A name without a dash has no protocol. Protocols with a slash
are left out, for they name directories.
-/

namespace DeltaStudy.Campaign

open Numeral

variable {first second : Float}

/-- There is no dash in what the name of an artifact ends with. -/
theorem dash_notMem_ending (positive : Positive first) :
    '-' ∉ (shortest first ++ ".csv").toList := by
  intro member
  rcases of_mem_ending positive member with digit | inSuffix
  · cases digit
  · simp at inSuffix

/-- A name is the text of a value, behind a protocol and a dash if there is a protocol. -/
theorem artifactName_eq (protocol : String) (delta : Float) :
    artifactName protocol delta =
      if protocol = "" then shortest delta ++ ".csv"
      else protocol ++ "-" ++ (shortest delta ++ ".csv") := by
  rw [artifactName, String.append_assoc]

/-- A name has a dash exactly if it has a protocol. -/
theorem dash_mem_artifactName_iff (positive : Positive first) (protocol : String) :
    '-' ∈ (artifactName protocol first).toList ↔ protocol ≠ "" := by
  rw [artifactName_eq]
  split
  case isTrue untagged => simpa [untagged] using dash_notMem_ending positive
  case isFalse tagged => simp [tagged]

/-- Names are equal exactly if they were made from the same protocol and the same value. -/
theorem artifactName_inj (positive : Positive first) (positive' : Positive second)
    {left right : String} :
    artifactName left first = artifactName right second ↔ left = right ∧ first = second := by
  constructor
  · intro same
    have tagged : left ≠ "" ↔ right ≠ "" := by
      rw [← dash_mem_artifactName_iff positive, same, dash_mem_artifactName_iff positive']
    rw [artifactName_eq, artifactName_eq] at same
    by_cases untagged : left = ""
    · have untagged' : right = "" := by simpa [untagged] using tagged
      rw [if_pos untagged, if_pos untagged', ending_shortest_inj positive positive'] at same
      exact ⟨untagged.trans untagged'.symm, same⟩
    · rw [if_neg untagged, if_neg (tagged.mp untagged)] at same
      have spelled : left.toList ++ '-' :: (shortest first ++ ".csv").toList
          = right.toList ++ '-' :: (shortest second ++ ".csv").toList := by
        simpa using congrArg String.toList same
      obtain ⟨tags, texts⟩ := (Text.append_cons_inj (dash_notMem_ending positive)
        (dash_notMem_ending positive')).mp spelled
      exact ⟨String.toList_inj.mp tags,
        (ending_shortest_inj positive positive').mp (String.toList_inj.mp texts)⟩
  · rintro ⟨rfl, rfl⟩
    rfl

/-- The name of an artifact is the last part of a path. -/
theorem ending_artifactName (positive : Positive first) {protocol : String}
    (clear : '/' ∉ protocol.toList) : Path.Ending (artifactName protocol first) := by
  rw [artifactName_eq]
  split
  · exact ending_shortest positive
  · exact (ending_shortest positive).append (by simpa using clear)

/-- Two artifacts in a directory are the same exactly if their protocols have one compared
form and their values are equal. -/
theorem artifactPath_identifies (directory : Path) {left right : String} {first second : Float}
    (leftClear : '/' ∉ left.toList) (rightClear : '/' ∉ right.toList)
    (firstFinite : first.isFinite = true) (firstPositive : 0 < first)
    (secondFinite : second.isFinite = true) (secondPositive : 0 < second) :
    (artifactPath directory left first).same (artifactPath directory right second) = true
      ↔ normalizeProtocol left = normalizeProtocol right ∧ first = second := by
  have positive := (positive_iff first).mpr ⟨firstFinite, firstPositive⟩
  have positive' := (positive_iff second).mpr ⟨secondFinite, secondPositive⟩
  have ending := ending_artifactName positive (slash_notMem_normalizeProtocol leftClear)
  have ending' := ending_artifactName positive' (slash_notMem_normalizeProtocol rightClear)
  have spelled := Path.join_append directory "" ending
  have spelled' := Path.join_append directory "" ending'
  rw [String.empty_append] at spelled spelled'
  rw [artifactPath, artifactPath, spelled, spelled', Path.same_append_iff ending ending',
    artifactName_inj positive positive']

/-- The dash and the digits of a protocol are not taken for those of a value. -/
theorem artifactPath_identifies_dashed :
    '/' ∉ " Eth-0.5".toList ∧ '/' ∉ "eth".toList
    ∧ (0.25 : Float).isFinite = true ∧ (0 : Float) < 0.25
    ∧ (0.5 : Float).isFinite = true ∧ (0 : Float) < 0.5
    ∧ (artifactPath ⟨"data"⟩ " Eth-0.5" 0.25).same (artifactPath ⟨"data"⟩ "eth" 0.5) = false := by
  have clear : '/' ∉ " Eth-0.5".toList := by decide
  have clear' : '/' ∉ "eth".toList := by decide
  have quarter : (0.25 : Float).isFinite = true ∧ (0 : Float) < 0.25 := by decide +kernel
  have half : (0.5 : Float).isFinite = true ∧ (0 : Float) < 0.5 := by decide +kernel
  have identified := artifactPath_identifies ⟨"data"⟩ clear clear' quarter.1 quarter.2 half.1 half.2
  refine ⟨clear, clear', quarter.1, quarter.2, half.1, half.2, ?_⟩
  rw [← Bool.not_eq_true, identified]
  rintro ⟨sameProtocol, -⟩
  exact absurd sameProtocol (by decide +kernel)

end DeltaStudy.Campaign
