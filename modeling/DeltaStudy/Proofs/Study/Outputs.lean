import DeltaStudy.Chart.Content
import DeltaStudy.Proofs.Paths.Extensions
import DeltaStudy.Proofs.Text.Blanks
import DeltaStudy.Study.Source

/-!
# Where charts go by default

The chart of an artifact is named for the artifact, and the chart of a comparison for its
protocol. A chart can be written under such a name exactly if what it is named for does not end
with a slash: then there would be nothing in front of the point. An artifact with a stem is named
by it and has its chart in the working directory. An artifact without one, such as a root or a
`..`, is named by its whole spelling, and a protocol is taken as it is.
-/

namespace DeltaStudy.Study

variable {artifact : Path} {stem : String}

/-- A chart can be written under a name in front of `.svg` that is not empty. -/
theorem checkOutput_append_iff (front : String) :
    Chart.checkOutput ⟨front ++ ".svg"⟩ = .ok () ↔
      front ≠ "" ∧ front.toList.getLast? ≠ some '/' := by
  have spelled : front ++ ".svg" = front ++ "." ++ "svg" := by rw [String.append_assoc]; rfl
  have ending : Path.Ending ("." ++ "svg") :=
    ⟨by simp, ['.', 's', 'v'], 'g', by simp, by simp⟩
  have found := Path.extension?_append front (by simp : '.' ∉ "svg".toList) ending
  rw [spelled, Chart.checkOutput, Path.hasExtension, found, ← not_or]
  split
  case h_1 actual isActual =>
    split at isActual
    case isTrue => cases isActual
    case isFalse usable =>
      obtain rfl := Option.some.inj isActual
      have same : Text.equalIgnoringCase "svg" "svg" = true := beq_iff_eq.mpr rfl
      simp [same, usable]
  case h_2 none =>
    split at none
    case isTrue unusable => simp [unusable]
    case isFalse => cases none

/-- A name ends with a slash if its second part does, and the first part does not. -/
theorem endsWithSlash_append_iff {front : String} (clear : front.toList.getLast? ≠ some '/')
    (back : String) :
    (front ++ back).toList.getLast? = some '/' ↔ back.toList.getLast? = some '/' := by
  rw [String.toList_append, List.getLast?_append]
  cases back.toList.getLast? with
  | none => simpa using clear
  | some last => simp

/-- A tag ends with a slash if it does so in its compared form. -/
theorem endsWithSlash_normalizeProtocol_iff (protocol : String) :
    (normalizeProtocol protocol).toList.getLast? = some '/' ↔
      (Text.trim protocol).toList.getLast? = some '/' := by
  rw [normalizeProtocol, Text.lowercase, String.toList_ofList, List.getLast?_map,
    Option.map_eq_some_iff]
  constructor
  · rintro ⟨last, ends, slash⟩
    rwa [Text.eq_slash_of_toLower slash] at ends
  · intro ends
    exact ⟨'/', ends, rfl⟩

/-! ## The chart of an artifact -/

/-- An artifact is named by its stem, which ends with no slash, or by its spelling. -/
theorem endsWithSlash_label_iff (artifact : Path) :
    artifact.label.toList.getLast? = some '/' ↔
      artifact.stem? = none ∧ artifact.text.toList.getLast? = some '/' := by
  rw [Path.label]
  cases stemmed : artifact.stem? with
  | none => simp
  | some stem =>
    have clear := Path.slash_notMem_of_stem? stemmed
    simpa using fun ends => clear (List.mem_of_getLast? ends)

theorem checkOutput_plotOutput_iff (artifact : Path) :
    Chart.checkOutput (plotOutput artifact) = .ok () ↔
      ¬ (artifact.stem? = none ∧ artifact.text.toList.getLast? = some '/') := by
  have filled : "plot-mining-" ++ artifact.label ≠ "" := by
    rw [ne_eq, String.append_eq_empty_iff]
    simp
  rw [plotOutput, checkOutput_append_iff, ne_eq _ (some '/'),
    endsWithSlash_append_iff (by simp), endsWithSlash_label_iff]
  exact and_iff_right filled

/-- The chart of an artifact with a stem is named in one piece. -/
theorem isName_plotOutput (stemmed : artifact.stem? = some stem) :
    Path.IsName (plotOutput artifact).text := by
  have clear := Path.slash_notMem_of_stem? stemmed
  have spelled : (plotOutput artifact).text = "plot-mining-" ++ stem ++ ".svg" := by
    rw [plotOutput, Path.label, stemmed, Option.getD_some]
  have long : 4 ≤ (plotOutput artifact).text.toList.length := by
    simp [spelled]
  refine ⟨?_, ?_, ?_, ?_⟩
  · intro empty
    simp [empty] at long
  · intro current
    simp [current] at long
  · intro parent
    simp [parent] at long
  · simpa [spelled] using clear

/-! ## The chart of a comparison -/

theorem checkOutput_comparisonOutput_iff (protocol : String) :
    Chart.checkOutput (comparisonOutput protocol) = .ok () ↔
      (Text.trim protocol).toList.getLast? ≠ some '/' := by
  rw [ne_eq, ← endsWithSlash_normalizeProtocol_iff]
  simp only [comparisonOutput]
  split
  case isTrue untagged =>
    have plain := checkOutput_append_iff "plot"
    have spelled : "plot" ++ ".svg" = "plot.svg" := rfl
    rw [spelled] at plain
    rw [plain, untagged]
    simp
  case isFalse tagged =>
    have filled : "plot-" ++ normalizeProtocol protocol ≠ "" := by
      rw [ne_eq, String.append_eq_empty_iff]
      simp
    rw [checkOutput_append_iff, ne_eq _ (some '/'), endsWithSlash_append_iff (by simp)]
    exact and_iff_right filled

/-- A chart can be written where it goes by default, unless an artifact without a stem or
the protocol of a comparison ends with a slash. The chart of an artifact with a stem goes into the
working directory. -/
theorem defaultOutputs_usable (artifact : Path) (protocol : String) :
    (Chart.checkOutput (plotOutput artifact) = .ok () ↔
      ¬ (artifact.stem? = none ∧ artifact.text.toList.getLast? = some '/'))
    ∧ (Chart.checkOutput (comparisonOutput protocol) = .ok () ↔
      (Text.trim protocol).toList.getLast? ≠ some '/')
    ∧ ∀ stem, artifact.stem? = some stem →
      (plotOutput artifact).isAbsolute = false
      ∧ (plotOutput artifact).components = [.name ("plot-mining-" ++ stem ++ ".svg")] := by
  refine ⟨checkOutput_plotOutput_iff artifact, checkOutput_comparisonOutput_iff protocol, ?_⟩
  intro stem stemmed
  obtain ⟨relative, components⟩ := (isName_plotOutput stemmed).alone
  refine ⟨relative, components.trans ?_⟩
  rw [plotOutput, Path.label, stemmed, Option.getD_some]

/-- A protocol that ends with a slash has no chart by default, and neither has the root. -/
theorem defaultOutputs_usable_slash :
    Chart.checkOutput (comparisonOutput "a/") = .error (.notSvg ⟨"plot-a/.svg"⟩)
    ∧ Chart.checkOutput (plotOutput ⟨"/"⟩) = .error (.notSvg ⟨"plot-mining-/.svg"⟩) := by
  decide +kernel

end DeltaStudy.Study
