import DeltaStudy.Path
import DeltaStudy.Proofs.Text.Pieces

/-!
# File names in paths

What stands behind the last slash of a path is its file name. So paths that only
differ behind a common front, in texts without slashes, are the same exactly if these
texts are.
-/

namespace DeltaStudy.Path

/-- A text that ends a path as part of its file name. -/
structure Ending (text : String) : Prop where
  /-- No slash is in it. -/
  clear : ∀ character ∈ text.toList, character ≠ '/'
  /-- It does not end with a point, so it makes no piece a `.` or `..`. -/
  pointless : ∃ front last, text.toList = front ++ [last] ∧ last ≠ '.'

/-- What stands in front of a text in a file name does not matter for how it ends. -/
theorem Ending.append {front back : String} (clear : '/' ∉ front.toList) (ending : Ending back) :
    Ending (front ++ back) := by
  obtain ⟨start, last, spelled, pointless⟩ := ending.pointless
  refine ⟨fun character member => ?_, front.toList ++ start, last, ?_, pointless⟩
  · rw [String.toList_append] at member
    rcases List.mem_append.mp member with inFront | inBack
    · rintro rfl
      exact clear inFront
    · exact ending.clear character inBack
  · rw [String.toList_append, spelled, List.append_assoc]

/-- A piece that does not end with a point is a name. -/
theorem componentOf?_of_pointless {front : List Char} {last : Char} (pointless : last ≠ '.') :
    componentOf? (front ++ [last]) = some (.name (String.ofList (front ++ [last]))) := by
  have nonempty : ¬ (front ++ [last] = [] ∨ front ++ [last] = ['.']) := by
    rintro (none | point)
    · simp at none
    · have ends := congrArg List.getLast? point
      simp [pointless] at ends
  have notParent : front ++ [last] ≠ ['.', '.'] := by
    intro points
    have ends := congrArg List.getLast? points
    simp [pointless] at ends
  rw [componentOf?, if_neg nonempty, if_neg notParent]

/-- The file name of a path is what follows its last slash. -/
theorem fileName?_append {front back : String} {pieces : List (List Char)} {last : List Char}
    (split : Text.splitAt (· == '/') front.toList = pieces ++ [last]) (ending : Ending back) :
    (⟨front ++ back⟩ : Path).fileName? = some (String.ofList last ++ back) := by
  obtain ⟨others, final, split', joined⟩ := Text.exists_last_splitAt (· == '/') front.toList
  obtain ⟨rfl, rfl⟩ := List.append_singleton_inj.mp (split'.symm.trans split)
  obtain ⟨start, finish, spelled, pointless⟩ := ending.pointless
  have clear : ∀ character ∈ back.toList, (character == '/') = false := by
    intro character member
    simpa using ending.clear character member
  have whole := joined back.toList back.toList [] (Text.splitAt_of_clear clear)
  have named : componentOf? (final ++ back.toList)
      = some (.name (String.ofList final ++ back)) := by
    rw [spelled, ← List.append_assoc, componentOf?_of_pointless pointless, List.append_assoc,
      ← spelled]
    simp
  rw [fileName?, components]
  simp only [String.toList_append, whole, List.filterMap_append, List.filterMap_cons, named,
    List.filterMap_nil, ← List.append_assoc, List.getLast?_concat]

/-- What a path ends with is the end of its file name. -/
theorem exists_fileName?_append (front : String) :
    ∃ last : String, ∀ back, Ending back →
      (⟨front ++ back⟩ : Path).fileName? = some (last ++ back) := by
  obtain ⟨pieces, last, split, -⟩ := Text.exists_last_splitAt (· == '/') front.toList
  exact ⟨String.ofList last, fun back ending => fileName?_append split ending⟩

/-- A path is absolute because of how it starts. -/
theorem isAbsolute_append (front : String) {back : String} (ending : Ending back) :
    (⟨front ++ back⟩ : Path).isAbsolute = (⟨front⟩ : Path).isAbsolute := by
  rw [isAbsolute, isAbsolute, String.toList_append]
  cases front.toList with
  | cons first rest => rfl
  | nil =>
    cases spelled : back.toList with
    | nil => rfl
    | cons first rest =>
      have relative : first ≠ '/' := ending.clear first (by simp [spelled])
      simpa using relative

/-- What a path below a directory ends with does not matter for where it is put. -/
theorem join_append (directory : Path) (front : String) {back : String} (ending : Ending back) :
    directory.join ⟨front ++ back⟩ = ⟨(directory.join ⟨front⟩).text ++ back⟩ := by
  rw [join, join, isAbsolute_append front ending]
  split
  · rfl
  · split
    · simp only [String.append_assoc]
    · simp only [String.append_assoc]

/-- Paths that continue a common front in their file names are the same exactly if
they continue it alike. -/
theorem same_append_iff {front left right : String} (leftEnding : Ending left)
    (rightEnding : Ending right) :
    (⟨front ++ left⟩ : Path).same ⟨front ++ right⟩ = true ↔ left = right := by
  constructor
  · intro same
    obtain ⟨last, named⟩ := exists_fileName?_append front
    have components : (⟨front ++ left⟩ : Path).components = (⟨front ++ right⟩ : Path).components :=
      beq_iff_eq.mp same
    have names : (⟨front ++ left⟩ : Path).fileName? = (⟨front ++ right⟩ : Path).fileName? := by
      rw [fileName?, fileName?, components]
    rw [named left leftEnding, named right rightEnding] at names
    exact String.append_right_inj last |>.mp (Option.some.inj names)
  · rintro rfl
    exact beq_iff_eq.mpr rfl

end DeltaStudy.Path
