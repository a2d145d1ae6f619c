import Mathlib.Data.List.Induction
import Mathlib.Data.List.Pairwise
import DeltaStudy.Proofs.Paths.Order
import DeltaStudy.Storage.Archive

/-!
# What an archive holds

A path of an archive has what was stored last under one of its spellings. So where no two
files of a list have the same path, the order in which they are stored does not matter.
-/

namespace DeltaStudy

namespace Storage

/-! ## Requests one after the other -/

theorem run_performAll_cons {σ : Type} (storage : Storage (StateM σ)) (call : Call)
    (calls : List Call) (state : σ) :
    (storage.performAll (call :: calls)).run state
      = let first := (storage.perform call).run state
        let later := (storage.performAll calls).run first.2
        (first.1 :: later.1, later.2) := by
  rw [performAll, List.mapM_cons]
  rfl

namespace Archive

/-! ## One file -/

/-- Whether the file in front has the path decides what is found under it. -/
theorem get?_cons (first : Path) (content : List UInt8) (files : List (Path × List UInt8))
    (path : Path) :
    (Archive.mk ((first, content) :: files)).get? path
      = if path.same first then some content else (Archive.mk files).get? path := by
  cases same : path.same first with
  | true => simp [get?, same]
  | false => simp [get?, same]

/-- Storing changes what is under the path, and nothing else. -/
theorem get?_insert (archive : Archive) (path : Path) (content : List UInt8) (other : Path) :
    (archive.insert path content).get? other
      = if other.same path then some content else archive.get? other := by
  obtain ⟨files⟩ := archive
  rw [insert]
  induction files with
  | nil => rw [insertAmong, get?_cons]
  | cons file rest inductionHypothesis =>
    obtain ⟨first, stored⟩ := file
    rw [insertAmong]
    split
    case isTrue same =>
      rw [get?_cons, get?_cons, Path.same_congr same]
      split <;> rfl
    case isFalse different =>
      split
      case isTrue before => rw [get?_cons]
      case isFalse behind =>
        rw [get?_cons, inductionHypothesis, get?_cons]
        split
        case isTrue isFirst =>
          have apart : ¬ other.same path = true := by
            rw [Path.same_iff] at different isFirst ⊢
            exact fun isPath => different (isPath.symm.trans isFirst)
          rw [if_neg apart]
        case isFalse => rfl

/-! ## Files that are stored one after the other -/

theorem ofFiles_concat (files : List (Path × List UInt8)) (path : Path) (content : List UInt8) :
    ofFiles (files ++ [(path, content)]) = (ofFiles files).insert path content := by
  rw [ofFiles, ofFiles, List.foldl_append, List.foldl_cons, List.foldl_nil]

/-- The last file with the path counts. -/
theorem get?_ofFiles (files : List (Path × List UInt8)) (path : Path) :
    (ofFiles files).get? path
      = (files.reverse.find? fun file => path.same file.1).map Prod.snd := by
  induction files using List.reverseRecOn with
  | nil => rfl
  | append_singleton files last inductionHypothesis =>
    obtain ⟨other, content⟩ := last
    rw [ofFiles_concat, get?_insert, inductionHypothesis, List.reverse_concat, List.find?_cons]
    cases path.same other <;> rfl

/-- Where all paths are different every file is kept. -/
theorem get?_ofFiles_of_mem {files : List (Path × List UInt8)}
    (apart : files.Pairwise fun earlier later => earlier.1.same later.1 = false)
    {path : Path} {content : List UInt8} (member : (path, content) ∈ files) :
    (ofFiles files).get? path = some content := by
  rw [get?_ofFiles]
  cases found : files.reverse.find? fun file => path.same file.1 with
  | none =>
    have missing := List.find?_eq_none.mp found (path, content) (List.mem_reverse.mpr member)
    exact absurd (Path.same_self path) missing
  | some file =>
    have same : path.same file.1 = true := by simpa using List.find?_some found
    have stored : file ∈ files := List.mem_reverse.mp (List.mem_of_find?_eq_some found)
    have symmetric : Std.Symm fun earlier later : Path × List UInt8 =>
        earlier.1.same later.1 = false :=
      ⟨fun _ _ different => (Path.same_comm _ _).trans different⟩
    by_cases equal : file = (path, content)
    · rw [equal, Option.map_some]
    · have different := apart.forall member stored (Ne.symm equal)
      rw [same] at different
      cases different

/-- What no file has as its path is not found. -/
theorem get?_ofFiles_of_forall {files : List (Path × List UInt8)} {path : Path}
    (absent : ∀ file ∈ files, path.same file.1 = false) : (ofFiles files).get? path = none := by
  rw [get?_ofFiles, List.find?_eq_none.mpr, Option.map_none]
  intro file member
  simp [absent file (List.mem_reverse.mp member)]

end Archive

end Storage

end DeltaStudy
