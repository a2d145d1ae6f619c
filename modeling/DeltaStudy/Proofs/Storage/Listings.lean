import Mathlib.Data.List.Perm.Basic
import DeltaStudy.Proofs.Paths.Order
import DeltaStudy.Proofs.Paths.Spellings
import DeltaStudy.Proofs.Storage.Archives

/-!
# What an archive lists

The paths of an archive are in their order, and each of them is spelled as it was when it was
stored first.
-/

namespace DeltaStudy.Storage.Archive

variable {path other : Path} {content : List UInt8} {files : List (Path × List UInt8)}

/-! ## The order of the files -/

/-- Files in the strict order of their paths. -/
def Ordered (files : List (Path × List UInt8)) : Prop :=
  (files.map Prod.fst).Pairwise fun earlier later => earlier.precedes later = true

/-- Nothing but the path is added. -/
theorem eq_or_mem_of_mem_insertAmong
    (member : other ∈ (insertAmong path content files).map Prod.fst) :
    other = path ∨ other ∈ files.map Prod.fst := by
  induction files with
  | nil => simpa [insertAmong] using member
  | cons file rest inductionHypothesis =>
    obtain ⟨first, stored⟩ := file
    rw [insertAmong] at member
    split at member
    · exact .inr member
    · split at member
      · exact List.mem_cons.mp member
      · rw [List.map_cons, List.mem_cons] at member ⊢
        rcases member with rfl | later
        · exact .inr (.inl rfl)
        · exact (inductionHypothesis later).imp_right .inr

theorem ordered_insertAmong (path : Path) (content : List UInt8) (ordered : Ordered files) :
    Ordered (insertAmong path content files) := by
  induction files with
  | nil => exact List.pairwise_singleton _ _
  | cons file rest inductionHypothesis =>
    obtain ⟨first, stored⟩ := file
    obtain ⟨before, orderedRest⟩ := List.pairwise_cons.mp ordered
    rw [insertAmong]
    split
    case isTrue => exact ordered
    case isFalse different =>
      split
      case isTrue precedes =>
        refine List.pairwise_cons.mpr ⟨?_, ordered⟩
        intro later member
        rcases List.mem_cons.mp member with rfl | member
        · exact precedes
        · exact Path.precedes_trans precedes (before later member)
      case isFalse behind =>
        refine List.pairwise_cons.mpr ⟨?_, inductionHypothesis orderedRest⟩
        intro later member
        rcases eq_or_mem_of_mem_insertAmong member with rfl | member
        · exact Path.precedes_of_not_precedes different behind
        · exact before later member

/-- Among files in their order a path is added unless it is there in some spelling. -/
theorem mem_insertAmong_iff (ordered : Ordered files) :
    other ∈ (insertAmong path content files).map Prod.fst ↔
      other ∈ files.map Prod.fst
        ∨ other = path ∧ ∀ stored ∈ files.map Prod.fst, ¬ path.same stored = true := by
  induction files with
  | nil => simp [insertAmong]
  | cons file rest inductionHypothesis =>
    obtain ⟨first, stored⟩ := file
    obtain ⟨before, orderedRest⟩ := List.pairwise_cons.mp ordered
    rw [insertAmong]
    split
    case isTrue same => simp [same]
    case isFalse different =>
      split
      case isTrue precedes =>
        have absent : ∀ stored ∈ (first :: rest.map Prod.fst), ¬ path.same stored = true := by
          intro stored member same
          rcases List.mem_cons.mp member with rfl | member
          · exact different same
          · exact Path.not_precedes_of_same same
              (Path.precedes_trans precedes (before stored member))
        rw [List.map_cons, List.map_cons, List.mem_cons, or_comm, and_iff_left absent]
      case isFalse behind =>
        rw [List.map_cons, List.map_cons, List.mem_cons, inductionHypothesis orderedRest,
          List.mem_cons, List.forall_mem_cons, or_assoc, and_iff_right different]

theorem ordered_ofFiles (files : List (Path × List UInt8)) : Ordered (ofFiles files).files := by
  induction files using List.reverseRecOn with
  | nil => exact .nil
  | append_singleton files last inductionHypothesis =>
    rw [ofFiles_concat]
    exact ordered_insertAmong last.1 last.2 inductionHypothesis

/-! ## The order of writing -/

section Commute

variable {first : Path} {stored : List UInt8} {rest : List (Path × List UInt8)}

theorem insertAmong_of_same (same : path.same first = true) :
    insertAmong path content ((first, stored) :: rest) = (first, content) :: rest := by
  rw [insertAmong, if_pos same]

theorem insertAmong_of_before (before : path.precedes first = true) :
    insertAmong path content ((first, stored) :: rest) = (path, content) :: (first, stored) :: rest := by
  have different : ¬ path.same first = true := fun same => Path.not_precedes_of_same same before
  rw [insertAmong, if_neg different, if_pos before]

theorem insertAmong_of_behind (behind : first.precedes path = true) :
    insertAmong path content ((first, stored) :: rest)
      = (first, stored) :: insertAmong path content rest := by
  have different : ¬ path.same first = true := fun same =>
    Path.not_precedes_of_same ((Path.same_comm first path).trans same) behind
  rw [insertAmong, if_neg different, if_neg (Path.not_precedes_of_precedes behind)]

end Commute

/-- Two files of which the path of one precedes that of the other can be stored in any order. -/
theorem insertAmong_comm_of_precedes (precedes : path.precedes other = true)
    (content stored : List UInt8) (files : List (Path × List UInt8)) :
    insertAmong path content (insertAmong other stored files)
      = insertAmong other stored (insertAmong path content files) := by
  induction files with
  | nil =>
    rw [insertAmong, insertAmong, insertAmong_of_before precedes, insertAmong_of_behind precedes]
    rfl
  | cons file rest inductionHypothesis =>
    obtain ⟨first, content'⟩ := file
    by_cases same : path.same first = true
    · have behind : first.precedes other = true := by
        rwa [Path.precedes, ← Path.same_iff.mp same]
      rw [insertAmong_of_behind behind, insertAmong_of_same same, insertAmong_of_same same,
        insertAmong_of_behind behind]
    · by_cases before : path.precedes first = true
      · rw [insertAmong_of_before before, insertAmong_of_behind precedes]
        by_cases otherSame : other.same first = true
        · rw [insertAmong_of_same otherSame, insertAmong_of_before before]
        · by_cases otherBefore : other.precedes first = true
          · rw [insertAmong_of_before otherBefore, insertAmong_of_before precedes]
          · have otherBehind := Path.precedes_of_not_precedes otherSame otherBefore
            rw [insertAmong_of_behind otherBehind, insertAmong_of_before before]
      · have behind := Path.precedes_of_not_precedes same before
        have otherBehind := Path.precedes_trans behind precedes
        rw [insertAmong_of_behind otherBehind, insertAmong_of_behind behind,
          insertAmong_of_behind behind, insertAmong_of_behind otherBehind, inductionHypothesis]

/-- Two files at different paths can be stored in any order. -/
theorem insert_comm (different : ¬ path.same other = true) (content stored : List UInt8)
    (archive : Archive) :
    (archive.insert other stored).insert path content
      = (archive.insert path content).insert other stored := by
  simp only [insert, mk.injEq]
  by_cases precedes : path.precedes other = true
  · exact insertAmong_comm_of_precedes precedes content stored archive.files
  · have precedes := Path.precedes_of_not_precedes different precedes
    exact (insertAmong_comm_of_precedes precedes stored content archive.files).symm

/-- Files at different paths can be stored in any order. -/
theorem ofFiles_of_perm {files' : List (Path × List UInt8)} (perm : files.Perm files')
    (apart : files.Pairwise fun earlier later => earlier.1.same later.1 = false) :
    ofFiles files = ofFiles files' := by
  have symmetric : Std.Symm fun earlier later : Path × List UInt8 =>
      earlier.1.same later.1 = false :=
    ⟨fun _ _ different => (Path.same_comm _ _).trans different⟩
  refine perm.foldl_eq' ?_ empty
  intro file member file' member' archive
  by_cases equal : file = file'
  · rw [equal]
  · have different := apart.forall member member' equal
    exact (insert_comm (by simp [different]) file.2 file'.2 archive).symm

/-! ## Which spelling counts -/

/-- The file of a path that was stored last. -/
def Latest (files : List (Path × List UInt8)) (path : Path) (content : List UInt8) : Prop :=
  ∃ before spelling after, files = before ++ (spelling, content) :: after
    ∧ path.same spelling = true ∧ ∀ file ∈ after, ¬ path.same file.1 = true

/-- The spelling of a path that was used first. -/
def SpelledFirst (files : List (Path × List UInt8)) (path : Path) : Prop :=
  ∃ before content after, files = before ++ (path, content) :: after
    ∧ ∀ file ∈ before, ¬ path.same file.1 = true

theorem get?_ofFiles_eq_some_iff :
    (ofFiles files).get? path = some content ↔ Latest files path content := by
  rw [get?_ofFiles, Option.map_eq_some_iff, Latest]
  constructor
  · rintro ⟨⟨spelling, _⟩, found, rfl⟩
    obtain ⟨same, after, before, split, others⟩ := List.find?_eq_some_iff_append.mp found
    refine ⟨before.reverse, spelling, after.reverse, ?_, same, ?_⟩
    · rw [List.reverse_eq_iff.mp split, List.reverse_append, List.reverse_cons, List.append_assoc,
        List.singleton_append]
    · intro file member
      simpa using others file (List.mem_reverse.mp member)
  · rintro ⟨before, spelling, after, rfl, same, others⟩
    refine ⟨(spelling, content), List.find?_eq_some_iff_append.mpr ⟨same, after.reverse,
      before.reverse, by simp, ?_⟩, rfl⟩
    intro file member
    simpa using others file (List.mem_reverse.mp member)

theorem get?_eq_none_iff {archive : Archive} :
    archive.get? path = none ↔ ∀ stored ∈ archive.files.map Prod.fst, ¬ path.same stored = true := by
  rw [get?, Option.map_eq_none_iff, List.find?_eq_none, List.forall_mem_map]

theorem get?_ofFiles_eq_none_iff :
    (ofFiles files).get? path = none ↔ ∀ file ∈ files, ¬ path.same file.1 = true := by
  rw [get?_ofFiles, Option.map_eq_none_iff, List.find?_eq_none]
  simp only [List.mem_reverse]

theorem spelledFirst_concat_iff {last : Path × List UInt8} :
    SpelledFirst (files ++ [last]) path ↔ SpelledFirst files path
      ∨ path = last.1 ∧ ∀ file ∈ files, ¬ path.same file.1 = true := by
  constructor
  · rintro ⟨before, content, after, split, others⟩
    rcases List.eq_nil_or_concat after with rfl | ⟨front, final, rfl⟩
    · obtain ⟨rfl, rfl⟩ := List.append_singleton_inj.mp split
      exact .inr ⟨rfl, others⟩
    · refine .inl ⟨before, content, front, ?_, others⟩
      rw [List.concat_eq_append, ← List.cons_append, ← List.append_assoc] at split
      exact (List.append_singleton_inj.mp split).1
  · rintro (⟨before, content, after, rfl, others⟩ | ⟨rfl, others⟩)
    · exact ⟨before, content, after ++ [last], by simp, others⟩
    · exact ⟨files, last.2, [], rfl, others⟩

/-- A path is kept in the spelling that was used first. -/
theorem mem_paths_ofFiles_iff :
    path ∈ (ofFiles files).files.map Prod.fst ↔ SpelledFirst files path := by
  induction files using List.reverseRecOn generalizing path with
  | nil =>
    constructor
    · intro member
      cases member
    · rintro ⟨before, content, after, split, -⟩
      simp at split
  | append_singleton files last inductionHypothesis =>
    rw [ofFiles_concat, insert, mem_insertAmong_iff (ordered_ofFiles files), inductionHypothesis,
      spelledFirst_concat_iff]
    refine or_congr_right (and_congr_right fun isLast => ?_)
    rw [← isLast, ← get?_eq_none_iff, get?_ofFiles_eq_none_iff]

/-! ## Archives as maps -/

/-- Storing is a request that is always carried out. -/
theorem run_performAll_write (files : List (Path × List UInt8)) (archive : Archive) :
    (storage.performAll (files.map fun file => .write file.1 file.2)).run archive
      = (files.map fun _ => .done,
          files.foldl (fun archive (path, content) => archive.insert path content) archive) := by
  induction files generalizing archive with
  | nil => rfl
  | cons file rest inductionHypothesis =>
    rw [List.map_cons, run_performAll_cons]
    exact congrArg (fun later : List Answer × Archive => (.done :: later.1, later.2))
      (inductionHypothesis (archive.insert file.1 file.2))

theorem isListed_iff {directory : Path} {extension : String} :
    isListed directory extension path = true ↔
      (∃ last, last ≠ .root ∧ path.components = directory.components ++ [last])
        ∧ ∃ actual, path.extension? = some actual
          ∧ Text.lowercase actual = Text.lowercase extension := by
  rw [isListed, Bool.and_eq_true, beq_iff_eq, Path.parentComponents?_eq_some_iff, Path.hasExtension]
  refine and_congr_right fun _ => ?_
  cases path.extension? with
  | none => simp
  | some actual => simp [Text.equalIgnoringCase]

theorem mem_list_iff {archive : Archive} {directory : Path} {extension : String} :
    path ∈ archive.list directory extension ↔
      path ∈ archive.files.map Prod.fst ∧ isListed directory extension path = true :=
  List.mem_filter

/-- A path is listed or not whatever is stored elsewhere. -/
theorem mem_list_insert_iff {archive : Archive} (ordered : Ordered archive.files)
    (different : ¬ other.same path = true) (content : List UInt8) (directory : Path)
    (extension : String) :
    other ∈ (archive.insert path content).list directory extension
      ↔ other ∈ archive.list directory extension := by
  rw [mem_list_iff, mem_list_iff, insert, mem_insertAmong_iff ordered]
  refine and_congr_left fun _ => or_iff_left ?_
  rintro ⟨rfl, -⟩
  exact different (Path.same_self other)

/-- An archive as the map that files make which are stored one after the other: each path has
what was stored last under one of its spellings and is listed as it was spelled first. -/
structure IsMap (files : List (Path × List UInt8)) (archive : Archive) : Prop where
  get?_eq_some_iff : ∀ path content, archive.get? path = some content ↔ Latest files path content
  get?_eq_none_iff : ∀ path,
    archive.get? path = none ↔ ∀ file ∈ files, ¬ path.same file.1 = true
  read_ok_iff : ∀ path content,
    (storage.read path).run archive = (.ok content, archive) ↔ Latest files path content
  read_missing : ∀ path, (∀ file ∈ files, ¬ path.same file.1 = true) →
    ∃ failure, failure.kind = .missingArtifact
      ∧ (storage.read path).run archive = (.error failure, archive)
  isFile_iff : ∀ path, (storage.isFile path).run archive = (true, archive) ↔
    ∃ content, (storage.read path).run archive = (.ok content, archive)
  /-- What is stored under a path has no part in the answers for any other path. -/
  elsewhere : ∀ path content other, ¬ other.same path = true →
    (archive.insert path content).get? other = archive.get? other
    ∧ (archive.insert path content).read other = archive.read other
    ∧ (archive.insert path content).contains other = archive.contains other
    ∧ ∀ directory extension, other ∈ (archive.insert path content).list directory extension
      ↔ other ∈ archive.list directory extension
  listed : ∀ directory extension, ∃ paths,
    (storage.list directory extension).run archive = (.ok paths, archive)
    ∧ paths.Pairwise (fun earlier later => earlier.precedes later = true)
    ∧ ∀ path, path ∈ paths ↔ SpelledFirst files path
      ∧ (∃ last, last ≠ .root ∧ path.components = directory.components ++ [last])
      ∧ ∃ actual, path.extension? = some actual
        ∧ Text.lowercase actual = Text.lowercase extension

theorem read_eq_ok_iff {archive : Archive} :
    archive.read path = .ok content ↔ archive.get? path = some content := by
  rw [read]
  cases archive.get? path with
  | none => simp
  | some stored => simp

theorem isMap_ofFiles (files : List (Path × List UInt8)) : IsMap files (ofFiles files) where
  get?_eq_some_iff _ _ := get?_ofFiles_eq_some_iff
  get?_eq_none_iff _ := get?_ofFiles_eq_none_iff
  read_ok_iff path content := by
    show ((ofFiles files).read path, ofFiles files) = (.ok content, ofFiles files) ↔ _
    rw [Prod.mk.injEq, and_iff_left rfl, read_eq_ok_iff, get?_ofFiles_eq_some_iff]
  read_missing path absent := by
    refine ⟨.artifactNotFound path, rfl, ?_⟩
    show ((ofFiles files).read path, ofFiles files) = _
    rw [read, get?_ofFiles_eq_none_iff.mpr absent]
  isFile_iff path := by
    show ((ofFiles files).contains path, ofFiles files) = (true, ofFiles files) ↔
      ∃ content, ((ofFiles files).read path, ofFiles files) = (.ok content, ofFiles files)
    simp only [Prod.mk.injEq, and_true, read_eq_ok_iff, contains, Option.isSome_iff_exists]
  elsewhere path content other different := by
    have unchanged : ((ofFiles files).insert path content).get? other = (ofFiles files).get? other := by
      rw [get?_insert, if_neg different]
    refine ⟨unchanged, by rw [read, read, unchanged], by rw [contains, contains, unchanged], ?_⟩
    exact mem_list_insert_iff (ordered_ofFiles files) different content
  listed directory extension := by
    refine ⟨_, rfl, (ordered_ofFiles files).filter _, fun path => ?_⟩
    rw [mem_list_iff, mem_paths_ofFiles_iff, isListed_iff]

/-- An archive is a map from paths to contents, in which spellings that differ by slashes and
inner points are one path, and which does not see the order in which different paths were
stored. -/
theorem ofFiles_isMap (files : List (Path × List UInt8)) :
    Path.SpellingRules
    ∧ (storage.performAll (files.map fun file => .write file.1 file.2)).run empty
      = (files.map fun _ => .done, ofFiles files)
    ∧ IsMap files (ofFiles files)
    ∧ ∀ files', files.Perm files' →
      (files.Pairwise fun earlier later => earlier.1.same later.1 = false) →
      ofFiles files' = ofFiles files :=
  ⟨Path.spellingRules, run_performAll_write files empty, isMap_ofFiles files,
    fun _ perm apart => (ofFiles_of_perm perm apart).symm⟩

/-- Three paths of which one has a point in front, stored in two orders. -/
theorem ofFiles_isMap_two_orders :
    let files : List (Path × List UInt8) :=
      [(⟨"d/b.CSV"⟩, [1]), (⟨"d//a.csv"⟩, [2]), (⟨"./d/a.csv"⟩, [3])]
    files.Perm files.reverse
    ∧ (files.Pairwise fun earlier later => earlier.1.same later.1 = false)
    ∧ ofFiles files.reverse = ofFiles files
    ∧ ∃ paths, (storage.list ⟨"d/"⟩ "csv").run (ofFiles files) = (.ok paths, ofFiles files)
      ∧ paths = [⟨"d//a.csv"⟩, ⟨"d/b.CSV"⟩] := by
  intro files
  have perm : files.Perm files.reverse := (List.reverse_perm files).symm
  have apart : files.Pairwise fun earlier later => earlier.1.same later.1 = false := by
    decide +kernel
  obtain ⟨-, -, isMap, orders⟩ := ofFiles_isMap files
  exact ⟨perm, apart, orders files.reverse perm apart, _, rfl, by decide +kernel⟩

end DeltaStudy.Storage.Archive
