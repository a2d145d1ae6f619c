import DeltaStudy.Proofs.Paths
import DeltaStudy.Proofs.Paths.Spellings

/-!
# Stems and extensions

A file name is parted at its last point into a stem and an extension, unless that point is its
first character. So a path that ends with a point and an extension has this extension, except if
a slash or nothing at all stands in front of the point. There is no slash in a stem.
-/

namespace DeltaStudy.Path

variable {path : Path} {name stem extension : String}

/-- A name is parted at a point that is the last one and not the first character. -/
theorem splitName_point (front : String) (clear : '.' ∉ extension.toList) :
    splitName (front ++ "." ++ extension)
      = if front = "" then (front ++ "." ++ extension, none) else (front, some extension) := by
  have spelled : (front ++ "." ++ extension).toList
      = (front.toList ++ ['.']) ++ extension.toList := by
    simp
  have pointless : ∀ character ∈ extension.toList.reverse, (character != '.') = true := by
    intro character member
    rw [bne_iff_ne]
    rintro rfl
    exact clear (List.mem_reverse.mp member)
  have behind : ((front ++ "." ++ extension).toList.reverse.takeWhile (· != '.')).reverse
      = extension.toList := by
    rw [spelled, List.reverse_append, List.takeWhile_append_of_pos pointless, List.reverse_concat,
      List.takeWhile_cons_of_neg (by simp), List.append_nil, List.reverse_reverse]
  have before : ((front ++ "." ++ extension).toList.take
      ((front ++ "." ++ extension).toList.length - extension.toList.length)).dropLast
      = front.toList := by
    rw [spelled, List.length_append, Nat.add_sub_cancel, List.take_left, List.dropLast_concat]
  simp only [splitName, behind, before, String.toList_eq_nil_iff, String.ofList_toList]

/-- The extension of a path that ends with a point and an extension. -/
theorem extension?_append (front : String) (clear : '.' ∉ extension.toList)
    (ending : Ending ("." ++ extension)) :
    (⟨front ++ "." ++ extension⟩ : Path).extension?
      = if front = "" ∨ front.toList.getLast? = some '/' then none else some extension := by
  obtain ⟨pieces, last, split, -⟩ := Text.exists_last_splitAt (· == '/') front.toList
  have named := fileName?_append split ending
  have hidden : String.ofList last = "" ↔ front = "" ∨ front.toList.getLast? = some '/' := by
    rw [String.ofList_eq_empty_iff, Text.last_splitAt_eq_nil_iff split, String.toList_eq_nil_iff]
    simp
  rw [String.append_assoc, extension?, named, Option.bind_some, ← String.append_assoc,
    splitName_point _ clear]
  simp only [hidden]
  split
  · rfl
  · rfl

/-! ## Names without slashes -/

/-- There is no slash in a file name. -/
theorem slash_notMem_of_fileName? (named : path.fileName? = some name) : '/' ∉ name.toList := by
  have ends : path.components.getLast? = some (.name name) := by
    rw [fileName?] at named
    split at named
    case h_1 text last => rw [last, Option.some.inj named]
    case h_2 => cases named
  have member : Component.name name ∈ opening path.text ++ Path.named path.text :=
    List.mem_of_getLast? ends
  have inPieces : Component.name name ∈ Path.named path.text := by
    rcases List.mem_append.mp member with opens | inPieces
    · rw [opening] at opens
      split at opens
      · simp at opens
      · split at opens
        · simp at opens
        · cases opens
    · exact inPieces
  obtain ⟨piece, isPiece, stands⟩ := List.mem_filterMap.mp inPieces
  intro slash
  rw [componentOf?] at stands
  split at stands
  · cases stands
  · split at stands
    · cases stands
    · cases stands
      rw [String.toList_ofList] at slash
      exact absurd (Text.mem_of_mem_splitAt isPiece slash).2 (by simp)

/-- A stem has only characters of its file name. -/
theorem mem_of_mem_splitName {character : Char} (member : character ∈ (splitName name).1.toList) :
    character ∈ name.toList := by
  rw [splitName] at member
  split at member
  · exact member
  · rw [String.toList_ofList] at member
    exact List.mem_of_mem_take (List.dropLast_subset _ member)

/-- There is no slash in the stem of a path. -/
theorem slash_notMem_of_stem? (stemmed : path.stem? = some stem) : '/' ∉ stem.toList := by
  obtain ⟨name, named, rfl⟩ := Option.map_eq_some_iff.mp stemmed
  exact fun slash => slash_notMem_of_fileName? named (mem_of_mem_splitName slash)

/-- A name alone is a relative path with this name as its only component. -/
theorem IsName.alone (isName : IsName name) :
    (⟨name⟩ : Path).isAbsolute = false ∧ (⟨name⟩ : Path).components = [.name name] := by
  have names : ∀ other ∈ [name], IsName other := List.forall_mem_singleton.mpr isName
  have spelled : ofNames [name] = ⟨name⟩ := congrArg Path.mk (String.intercalate_singleton)
  have relative := isAbsolute_ofNames (List.cons_ne_nil _ _) names
  have components := components_ofNames (List.cons_ne_nil _ _) names
  rw [spelled] at relative components
  exact ⟨relative, components⟩

end DeltaStudy.Path
