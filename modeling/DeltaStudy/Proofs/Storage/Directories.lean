import Mathlib.Data.List.Nodup
import DeltaStudy.Proofs.Paths.Order
import DeltaStudy.Proofs.Storage.Trees

/-!
# Directories of a tree

A tree that is asked for a directory with everything above it gets directories and keeps its
files. That also holds for what has been made before a refusal. A directory that is listed has
some of its files listed, each of them once.
-/

namespace DeltaStudy.Storage.FileTree

open DeltaStudy.Path (IsName ofNames)

variable {tree : FileTree} {names : List String}

/-! ## Making -/

/-- What comes back when a directory is asked for, and what is left. -/
theorem run_makeDirectory (tree : FileTree) (directory : Path) :
    (storage.makeDirectory directory).run tree
      = (match (tree.ensureDirectory directory).1 with
          | none => .ok ()
          | some refusal => .error (.unmadeDirectory directory refusal),
        (tree.ensureDirectory directory).2) := by
  simp only [storage, StateT.run_bind, StateT.run_get, StateT.run_set, pure_bind]
  cases (tree.ensureDirectory directory).1 with
  | none => rfl
  | some refusal => rfl

/-- A tidy tree that has the files of another one. -/
structure Grown (before after : FileTree) : Prop where
  tidy : after.Tidy
  workingDirectory : after.workingDirectory = before.workingDirectory
  contents : ∀ names, after.contentBelow? names = before.contentBelow? names

theorem Grown.refl (tidy : tree.Tidy) : Grown tree tree :=
  ⟨tidy, rfl, fun _ => rfl⟩

theorem Grown.trans {first second third : FileTree} (earlier : Grown first second)
    (later : Grown second third) : Grown first third where
  tidy := later.tidy
  workingDirectory := later.workingDirectory.trans earlier.workingDirectory
  contents names := (later.contents names).trans (earlier.contents names)

theorem Tidy.grown_makeOne (tidy : tree.Tidy) (nonempty : names ≠ [])
    (areNames : ∀ name ∈ names, IsName name) {made : FileTree}
    (succeeded : tree.makeOne tree.workingDirectory names = .ok made) : Grown tree made := by
  rw [makeOne, withoutSlashes_names areNames] at succeeded
  obtain ⟨front, name, rfl⟩ := (List.eq_nil_or_concat' names).resolve_left nonempty
  obtain ⟨areFront, isName⟩ := Path.forall_isName_concat_iff.mp areNames
  obtain ⟨target, followed, succeeded⟩ := bind_eq_ok_iff.mp succeeded
  obtain ⟨rfl, above⟩ := (tidy.follow_eq_ok_iff areFront isName target).mp followed
  rw [← nodeBelow?] at succeeded
  cases found : tree.nodeBelow? (front ++ [name]) with
  | some node =>
    rw [found] at succeeded
    cases succeeded
  | none =>
    rw [found] at succeeded
    cases succeeded
    refine ⟨tidy.putBelow above isName (by simp [found]) .directory, rfl, fun others => ?_⟩
    rw [contentBelow?, ← FileTree.putBelow, nodeBelow?_putBelow tree nonempty, contentBelow?]
    by_cases here : others = front ++ [name]
    · simp [here, found]
    · simp [here]

theorem Tidy.grown_ensureOne (tidy : tree.Tidy) (nonempty : names ≠ [])
    (areNames : ∀ name ∈ names, IsName name) :
    Grown tree (tree.ensureOne tree.workingDirectory names).2 := by
  rw [ensureOne]
  cases made : tree.makeOne tree.workingDirectory names with
  | ok made' => exact tidy.grown_makeOne nonempty areNames made
  | error refusal => exact .refl tidy

theorem Tidy.grown_ensureAll (tidy : tree.Tidy) {above : List String}
    (aboveNames : ∀ name ∈ above, IsName name) (nonempty : names ≠ [])
    (areNames : ∀ name ∈ names, IsName name) :
    Grown tree (tree.ensureAll tree.workingDirectory names above).2 := by
  induction above generalizing names with
  | nil => exact tidy.grown_ensureOne nonempty areNames
  | cons nearest above inductionHypothesis =>
    rw [ensureAll]
    -- Only what is missing above is made first. Then the rest is asked for in the tree that came
    -- out, which still starts from the same working directory.
    split
    case h_1 =>
      have parents : ∀ name ∈ (nearest :: above).reverse, IsName name :=
        fun name member => aboveNames name (List.mem_reverse.mp member)
      have grown := inductionHypothesis (fun name member => aboveNames name (.tail _ member))
        (by simp) parents
      split
      case h_1 made ensured =>
        rw [ensured] at grown
        rw [← grown.workingDirectory]
        exact grown.trans (grown.tidy.grown_ensureOne nonempty areNames)
      case h_2 => exact grown
    case h_2 => exact tidy.grown_ensureOne nonempty areNames

/-- Directories are made without a change to any file. -/
theorem Tidy.grown_ensureDirectory (tidy : tree.Tidy) (nonempty : names ≠ [])
    (areNames : ∀ name ∈ names, IsName name) :
    Grown tree (tree.ensureDirectory (ofNames names)).2 := by
  have above : ∀ name ∈ ((ofNames names).components.dropLast.map pieceOf).reverse, IsName name := by
    have spelled : (names.map Component.name).map pieceOf = names := by
      rw [List.map_map]
      exact List.map_id names
    rw [Path.components_ofNames nonempty areNames, List.map_dropLast, spelled]
    intro name member
    exact areNames name (List.dropLast_subset _ (List.mem_reverse.mp member))
  rw [ensureDirectory, if_neg (Path.text_ofNames_ne_empty nonempty areNames),
    piecesOf_ofNames nonempty areNames, startOf_ofNames tree nonempty areNames]
  exact tidy.grown_ensureAll above nonempty areNames

/-! ## Listing -/

theorem mem_namesIn_iff {directory : Location} {name : String} :
    name ∈ tree.namesIn directory ↔ tree.node? (directory ++ [name]) ≠ none := by
  rw [namesIn, List.mem_filterMap]
  constructor
  · rintro ⟨entry, member, named⟩
    split at named
    case isTrue inside =>
      have located : entry.1 = directory ++ [name] := by
        rw [← inside]
        exact (List.dropLast_append_getLast? name named).symm
      exact located ▸ node?_ne_none_of_mem member
    case isFalse => cases named
  · intro found
    obtain ⟨node, member⟩ := exists_mem_of_node?_ne_none (by simp) found
    exact ⟨_, member, by simp⟩

theorem Tidy.nodup_namesIn (tidy : tree.Tidy) (names : List String) :
    (tree.namesIn (tree.workingDirectory ++ names)).Nodup := by
  refine List.pairwise_filterMap.mpr (tidy.once.imp ?_)
  intro first second apart name firstNamed other secondNamed equal
  subst equal
  split at firstNamed
  case isFalse => cases firstNamed
  case isTrue firstInside =>
    split at secondNamed
    case isFalse => cases secondNamed
    case isTrue secondInside =>
      have firstLocated := List.dropLast_append_getLast? name firstNamed
      have secondLocated := List.dropLast_append_getLast? name secondNamed
      rw [firstInside] at firstLocated
      rw [secondInside, firstLocated] at secondLocated
      refine apart (names ++ [name]) (by simp) ?_ secondLocated.symm
      rw [← firstLocated, List.append_assoc]

theorem Tidy.isName_of_mem_namesIn (tidy : tree.Tidy) {name : String}
    (member : name ∈ tree.namesIn (tree.workingDirectory ++ names)) : IsName name := by
  rw [mem_namesIn_iff, List.append_assoc] at member
  exact tidy.named (names ++ [name]) member name (by simp)

/-- A directory that is listed has those of its files listed that have the extension, in the
order of their paths. -/
structure Listed (tree : FileTree) (names : List String) (extension : String)
    (paths : List Path) : Prop where
  nodup : paths.Nodup
  ordered : paths.Pairwise fun earlier later => ¬ later.precedes earlier = true
  mem_iff : ∀ path, path ∈ paths ↔ path.hasExtension extension = true
    ∧ ∃ name, IsName name ∧ path = ofNames (names ++ [name])
      ∧ (tree.contentBelow? (names ++ [name])).isSome = true

theorem eq_of_filesIn (nonempty : names ≠ []) (areNames : ∀ name ∈ names, IsName name)
    {extension : String} {paths : List Path}
    (succeeded : tree.filesIn (ofNames names) extension = .ok paths) :
    paths = (((tree.namesIn (tree.workingDirectory ++ names)).map fun name =>
        (ofNames names).join ⟨name⟩).filter fun path =>
          tree.isFile path && path.hasExtension extension).mergeSort
        fun left right => !right.precedes left := by
  rw [filesIn, locate_ofNames tree nonempty areNames] at succeeded
  obtain ⟨target, followed, succeeded⟩ := bind_eq_ok_iff.mp succeeded
  obtain ⟨rfl, -⟩ := (follow_eq_ok_iff areNames).mp followed
  cases found : tree.node? (tree.workingDirectory ++ names) with
  | none =>
    rw [found] at succeeded
    cases succeeded
  | some node =>
    rw [found] at succeeded
    cases node with
    | file content executable => cases succeeded
    | directory => exact (Except.ok.inj succeeded).symm

/-- Every entry of a directory has its name behind those of the directory. -/
theorem Tidy.map_join_namesIn (tidy : tree.Tidy) (nonempty : names ≠ [])
    (areNames : ∀ name ∈ names, IsName name) :
    ((tree.namesIn (tree.workingDirectory ++ names)).map fun name => (ofNames names).join ⟨name⟩)
      = (tree.namesIn (tree.workingDirectory ++ names)).map fun name => ofNames (names ++ [name]) :=
  List.map_congr_left fun _ member =>
    Path.join_ofNames nonempty areNames (tidy.isName_of_mem_namesIn member)

theorem Tidy.listed_of_filesIn (tidy : tree.Tidy) (nonempty : names ≠ [])
    (areNames : ∀ name ∈ names, IsName name) {extension : String} {paths : List Path}
    (succeeded : tree.filesIn (ofNames names) extension = .ok paths) :
    tree.Listed names extension paths := by
  have sorted := eq_of_filesIn nonempty areNames succeeded
  rw [tidy.map_join_namesIn nonempty areNames] at sorted
  subst sorted
  constructor
  case ordered => exact Path.pairwise_mergeSort _
  case nodup =>
    rw [(List.mergeSort_perm _ _).nodup_iff]
    refine (List.Nodup.map (fun name other equal => ?_) (tidy.nodup_namesIn names)).filter _
    simpa [Path.ofNames_concat nonempty] using equal
  case mem_iff =>
    intro path
    rw [List.mem_mergeSort, List.mem_filter, List.mem_map, Bool.and_eq_true]
    constructor
    · rintro ⟨⟨name, member, rfl⟩, isFile, extended⟩
      have isName := tidy.isName_of_mem_namesIn member
      have allNames := Path.forall_isName_concat_iff.mpr ⟨areNames, isName⟩
      rw [tidy.isFile_ofNames (by simp) allNames] at isFile
      exact ⟨extended, name, isName, rfl, isFile⟩
    · rintro ⟨extended, name, isName, rfl, isFile⟩
      have allNames := Path.forall_isName_concat_iff.mpr ⟨areNames, isName⟩
      obtain ⟨content, stored⟩ := Option.isSome_iff_exists.mp isFile
      obtain ⟨executable, found⟩ := contentBelow?_eq_some_iff.mp stored
      have member : name ∈ tree.namesIn (tree.workingDirectory ++ names) := by
        rw [mem_namesIn_iff, List.append_assoc, ← nodeBelow?, found]
        exact Option.some_ne_none _
      exact ⟨⟨name, member, rfl⟩, by rwa [tidy.isFile_ofNames (by simp) allNames], extended⟩

end DeltaStudy.Storage.FileTree
