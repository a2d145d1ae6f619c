import Mathlib.Data.List.Forall2
import DeltaStudy.Proofs.Storage.Directories
import DeltaStudy.Proofs.Storage.Listings

/-!
# Archives in place of file trees

An archive answers as the files below a working directory do, as long as nothing is asked that
the files refuse. It has no directories, so it cannot refuse what they are missing for.
-/

namespace DeltaStudy.Storage

open DeltaStudy.Path (IsName ofNames)

variable {tree : FileTree} {archive : Archive} {names : List String}

/-! ## Archives that have the files of a tree -/

/-- An archive that has the files below the working directory of a tidy tree. Its paths are
spelled by names, of which there is one spelling only, so it does not matter that an archive
keeps the first one. -/
structure Mirrors (tree : FileTree) (archive : Archive) : Prop where
  tidy : tree.Tidy
  ordered : Archive.Ordered archive.files
  plain : ∀ path ∈ archive.files.map Prod.fst, path.Plain
  contents : ∀ names, names ≠ [] → (∀ name ∈ names, IsName name) →
    archive.get? (ofNames names) = tree.contentBelow? names

namespace Mirrors

theorem of_fresh (fresh : tree.Fresh) : Mirrors tree .empty where
  tidy := fresh.tidy
  ordered := .nil
  plain _ member := nomatch member
  contents names nonempty _ := by
    rw [FileTree.contentBelow?, fresh.empty names nonempty]
    rfl

/-- More directories make no difference. -/
theorem of_grown (mirrors : Mirrors tree archive) {grown : FileTree}
    (grows : FileTree.Grown tree grown) : Mirrors grown archive where
  tidy := grows.tidy
  ordered := mirrors.ordered
  plain := mirrors.plain
  contents names nonempty areNames := by
    rw [grows.contents names, mirrors.contents names nonempty areNames]

theorem store (mirrors : Mirrors tree archive) (nonempty : names ≠ [])
    (areNames : ∀ name ∈ names, IsName name) {content : List UInt8} {stored : FileTree}
    (succeeded : tree.store (ofNames names) content = .ok stored) :
    Mirrors stored (archive.insert (ofNames names) content) := by
  obtain ⟨front, name, rfl⟩ := (List.eq_nil_or_concat' names).resolve_left nonempty
  obtain ⟨areFront, isName⟩ := Path.forall_isName_concat_iff.mp areNames
  obtain ⟨above, vacant, executable, rfl⟩ := mirrors.tidy.store_eq_ok areFront isName succeeded
  constructor
  case tidy => exact mirrors.tidy.putBelow above isName vacant _
  case ordered => exact Archive.ordered_insertAmong _ _ mirrors.ordered
  case plain =>
    intro path member
    rcases Archive.eq_or_mem_of_mem_insertAmong member with rfl | member
    · exact ⟨_, nonempty, areNames, rfl⟩
    · exact mirrors.plain path member
  case contents =>
    intro others nonempty' areOthers
    have same := Path.same_ofNames_iff nonempty' areOthers nonempty areNames
    rw [Archive.get?_insert, FileTree.contentBelow?_putBelow tree nonempty]
    by_cases here : others = front ++ [name]
    · rw [if_pos (same.mpr here), if_pos here]
    · rw [if_neg (mt same.mp here), if_neg here, mirrors.contents others nonempty' areOthers]

theorem contains_eq (mirrors : Mirrors tree archive) (nonempty : names ≠ [])
    (areNames : ∀ name ∈ names, IsName name) :
    archive.contains (ofNames names) = tree.isFile (ofNames names) := by
  rw [mirrors.tidy.isFile_ofNames nonempty areNames, Archive.contains,
    mirrors.contents names nonempty areNames]

/-- Reading is the same, if nothing but a missing file is refused. -/
theorem read_eq (mirrors : Mirrors tree archive) (nonempty : names ≠ [])
    (areNames : ∀ name ∈ names, IsName name)
    (missing : ∀ refusal, tree.contentOf (ofNames names) = .error refusal → refusal = .notFound) :
    archive.read (ofNames names)
      = (tree.contentOf (ofNames names)).mapError (FileTree.readFailure (ofNames names)) := by
  have reads := mirrors.tidy.contentOf_eq_ok_iff nonempty areNames
  rw [Archive.read, mirrors.contents names nonempty areNames]
  cases found : tree.contentOf (ofNames names) with
  | ok content =>
    rw [(reads content).mp found]
    rfl
  | error refusal =>
    have absent : tree.contentBelow? names = none := by
      refine Option.eq_none_iff_forall_ne_some.mpr fun content stored => ?_
      have read := (reads content).mpr stored
      rw [found] at read
      cases read
    rw [absent, missing refusal found]
    rfl

/-- What the archive has is what the tree has. -/
theorem mem_paths_iff (mirrors : Mirrors tree archive) (nonempty : names ≠ [])
    (areNames : ∀ name ∈ names, IsName name) :
    ofNames names ∈ archive.files.map Prod.fst ↔ (tree.contentBelow? names).isSome = true := by
  rw [← mirrors.contents names nonempty areNames, Option.isSome_iff_ne_none, Ne,
    Archive.get?_eq_none_iff]
  push Not
  constructor
  · exact fun member => ⟨_, member, Path.same_self _⟩
  · rintro ⟨path, member, same⟩
    have equal := Path.Plain.eq_of_same ⟨names, nonempty, areNames, rfl⟩ (mirrors.plain path member) same
    rwa [equal]

theorem mem_list_iff (mirrors : Mirrors tree archive) (nonempty : names ≠ [])
    (areNames : ∀ name ∈ names, IsName name) {extension : String} {path : Path} :
    path ∈ archive.list (ofNames names) extension ↔ path.hasExtension extension = true
      ∧ ∃ name, IsName name ∧ path = ofNames (names ++ [name])
        ∧ (tree.contentBelow? (names ++ [name])).isSome = true := by
  rw [Archive.mem_list_iff, Archive.isListed, Bool.and_eq_true, beq_iff_eq]
  constructor
  · rintro ⟨member, held, extended⟩
    obtain ⟨others, nonempty', areOthers, rfl⟩ := mirrors.plain path member
    obtain ⟨name, rfl⟩ := (Path.parentComponents?_ofNames_iff nonempty areNames nonempty' areOthers).mp held
    have stored := (mirrors.mem_paths_iff nonempty' areOthers).mp member
    exact ⟨extended, name, (Path.forall_isName_concat_iff.mp areOthers).2, rfl, stored⟩
  · rintro ⟨extended, name, isName, rfl, stored⟩
    have allNames := Path.forall_isName_concat_iff.mpr ⟨areNames, isName⟩
    refine ⟨(mirrors.mem_paths_iff (by simp) allNames).mpr stored, ?_, extended⟩
    exact (Path.parentComponents?_ofNames_iff nonempty areNames (by simp) allNames).mpr ⟨name, rfl⟩

/-- Both lists have the same paths in the same order. -/
theorem list_eq (mirrors : Mirrors tree archive) (nonempty : names ≠ [])
    (areNames : ∀ name ∈ names, IsName name) {extension : String} {paths : List Path}
    (succeeded : tree.filesIn (ofNames names) extension = .ok paths) :
    archive.list (ofNames names) extension = paths := by
  have listed := mirrors.tidy.listed_of_filesIn nonempty areNames succeeded
  have ordered : (archive.list (ofNames names) extension).Pairwise fun earlier later =>
      earlier.precedes later = true := mirrors.ordered.filter _
  have nodup : (archive.list (ofNames names) extension).Nodup := by
    refine ordered.imp ?_
    rintro earlier _ precedes rfl
    exact Path.not_precedes_of_same (Path.same_self earlier) precedes
  have perm : (archive.list (ofNames names) extension).Perm paths :=
    (List.perm_ext_iff_of_nodup nodup listed.nodup).mpr fun path => by
      rw [mirrors.mem_list_iff nonempty areNames, listed.mem_iff]
  -- Both are sorted, and two different paths of names cannot be in either order.
  refine perm.eq_of_pairwise ?_ (ordered.imp Path.not_precedes_of_precedes) listed.ordered
  intro left right member member' notBehind notBefore
  have plain {path : Path} (listed : path ∈ archive.list (ofNames names) extension) : path.Plain :=
    mirrors.plain path (Archive.mem_list_iff.mp listed).1
  by_contra different
  refine notBefore (Path.precedes_of_not_precedes (fun same => different ?_) notBehind)
  exact (Path.Plain.eq_of_same (plain (perm.mem_iff.mpr member')) (plain member) same).symm

end Mirrors

/-! ## Requests -/

/-- The path that is asked about. -/
def Call.path : Call → Path
  | .isFile path | .read path | .write path _ | .list path _ | .makeDirectory path => path

/-- Whether the content of a file is asked for. -/
def Call.isRead : Call → Bool
  | .read _ => true
  | _ => false

/-- An answer that is no refusal, except that a file may be missing when it is read. -/
def Smooth (call : Call) : Answer → Prop
  | .failed failure => call.isRead = true ∧ failure.kind = .missingArtifact
  | _ => True

instance (call : Call) : (answer : Answer) → Decidable (Smooth call answer)
  | .failed failure =>
    inferInstanceAs (Decidable (call.isRead = true ∧ failure.kind = .missingArtifact))
  | .truth _ | .content _ | .paths _ | .done => .isTrue trivial

variable {calls : List Call} {call : Call}

/-- One request that is carried out is answered alike and keeps the archive in step. -/
theorem Mirrors.perform (mirrors : Mirrors tree archive) (plain : call.path.Plain)
    (smooth : Smooth call ((FileTree.storage.perform call).run tree).1) :
    ((Archive.storage.perform call).run archive).1 = ((FileTree.storage.perform call).run tree).1
      ∧ Mirrors ((FileTree.storage.perform call).run tree).2
        ((Archive.storage.perform call).run archive).2 := by
  obtain ⟨names, nonempty, areNames, named⟩ := plain
  cases call with
  | isFile path =>
    obtain rfl : path = ofNames names := named
    exact ⟨congrArg Answer.truth (mirrors.contains_eq nonempty areNames), mirrors⟩
  | read path =>
    obtain rfl : path = ofNames names := named
    have missing (refusal : SystemRefusal)
        (refused : tree.contentOf (ofNames names) = .error refusal) : refusal = .notFound := by
      change Smooth (.read _) (answerOf .content
        ((tree.contentOf (ofNames names)).mapError (FileTree.readFailure _))) at smooth
      rw [refused] at smooth
      cases refusal with
      | notFound => rfl
      | _ => cases smooth.2
    exact ⟨congrArg (answerOf .content) (mirrors.read_eq nonempty areNames missing), mirrors⟩
  | write path content =>
    obtain rfl : path = ofNames names := named
    simp only [perform, StateT.run_map, FileTree.run_write] at smooth ⊢
    cases stored : tree.store (ofNames names) content with
    | ok after => exact ⟨rfl, mirrors.store nonempty areNames stored⟩
    | error refusal =>
      rw [stored] at smooth
      cases smooth.1
  | list directory extension =>
    obtain rfl : directory = ofNames names := named
    refine ⟨?_, mirrors⟩
    change Smooth (.list _ _) (answerOf .paths
      ((tree.filesIn (ofNames names) extension).mapError (.unlistedDirectory _))) at smooth
    show Answer.paths (archive.list (ofNames names) extension) = answerOf .paths
      ((tree.filesIn (ofNames names) extension).mapError (.unlistedDirectory _))
    cases found : tree.filesIn (ofNames names) extension with
    | ok paths =>
      rw [mirrors.list_eq nonempty areNames found]
      rfl
    | error refusal =>
      rw [found] at smooth
      cases smooth.1
  | makeDirectory directory =>
    obtain rfl : directory = ofNames names := named
    simp only [perform, StateT.run_map, FileTree.run_makeDirectory] at smooth ⊢
    cases made : (tree.ensureDirectory (ofNames names)).1 with
    | none => exact ⟨rfl, mirrors.of_grown (mirrors.tidy.grown_ensureDirectory nonempty areNames)⟩
    | some refusal =>
      rw [made] at smooth
      cases smooth.1

/-- Requests that are carried out one after the other are answered alike. -/
theorem Mirrors.performAll (mirrors : Mirrors tree archive)
    (plain : ∀ call ∈ calls, call.path.Plain)
    (smooth : List.Forall₂ Smooth calls ((FileTree.storage.performAll calls).run tree).1) :
    ((Archive.storage.performAll calls).run archive).1
      = ((FileTree.storage.performAll calls).run tree).1 := by
  induction calls generalizing tree archive with
  | nil => rfl
  | cons call rest inductionHypothesis =>
    rw [List.forall_mem_cons] at plain
    rw [run_performAll_cons] at smooth ⊢
    rw [run_performAll_cons]
    obtain ⟨first, later⟩ := List.forall₂_cons.mp smooth
    obtain ⟨same, inStep⟩ := mirrors.perform plain.1 first
    exact List.cons_eq_cons.mpr ⟨same, inductionHypothesis inStep plain.2 later⟩

/-- An archive stands in for a working directory that is empty at first: requests about paths
of names that the files carry out, but for files that are missing when they are read, have
the same answers from both. -/
theorem performAll_archive_eq (fresh : tree.Fresh) (plain : ∀ call ∈ calls, call.path.Plain)
    (smooth : List.Forall₂ Smooth calls ((FileTree.storage.performAll calls).run tree).1) :
    ((Archive.storage.performAll calls).run .empty).1
      = ((FileTree.storage.performAll calls).run tree).1 :=
  (Mirrors.of_fresh fresh).performAll plain smooth

/-- A file is missing, then stored and replaced, next to a directory that is named like one. -/
theorem performAll_archive_eq_beside_directory :
    let missing := ofNames ["out", "a.csv"]
    let directory := ofNames ["out", "b.csv"]
    let calls : List Call :=
      [.read missing, .makeDirectory directory, .write (ofNames ["out", "c.CSV"]) [1],
        .write (ofNames ["out", "b.csv", "d.csv"]) [2], .write missing [3], .write missing [4],
        .isFile directory, .read missing, .list (ofNames ["out"]) "csv"]
    let answers : List Answer :=
      [.failed (.artifactNotFound missing), .done, .done, .done, .done, .done, .truth false,
        .content [4], .paths [missing, ofNames ["out", "c.CSV"]]]
    let tree := FileTree.ofWorkingDirectory ["home"]
    List.Forall₂ Smooth calls ((FileTree.storage.performAll calls).run tree).1
      ∧ ((Archive.storage.performAll calls).run .empty).1 = answers
      ∧ ((FileTree.storage.performAll calls).run tree).1 = answers := by
  intro missing directory calls answers tree
  have spelled : ∀ call ∈ calls, ∃ names ∈ [["out"], ["out", "a.csv"], ["out", "b.csv"],
      ["out", "c.CSV"], ["out", "b.csv", "d.csv"]], call.path = ofNames names := by decide +kernel
  have areNames : ∀ names ∈ [["out"], ["out", "a.csv"], ["out", "b.csv"], ["out", "c.CSV"],
      ["out", "b.csv", "d.csv"]], names ≠ [] ∧ ∀ name ∈ names, IsName name := by decide +kernel
  have plain : ∀ call ∈ calls, call.path.Plain := by
    intro call member
    obtain ⟨names, isIn, named⟩ := spelled call member
    exact ⟨names, (areNames names isIn).1, (areNames names isIn).2, named⟩
  have smooth : List.Forall₂ Smooth calls ((FileTree.storage.performAll calls).run tree).1 := by
    decide +kernel
  have answered : ((Archive.storage.performAll calls).run .empty).1 = answers := by decide +kernel
  have fresh := FileTree.fresh_ofWorkingDirectory ["home"]
  exact ⟨smooth, answered, (performAll_archive_eq fresh plain smooth).symm.trans answered⟩

end DeltaStudy.Storage
