import Mathlib.Data.List.Basic
import Mathlib.Data.List.TakeWhile
import DeltaStudy.Proofs.Failure
import DeltaStudy.Proofs.Paths.Spellings
import DeltaStudy.Storage.FileTree

/-!
# Trees below their working directory

Paths that are spelled by names lead from the working directory down. What they lead to can
be told without following them: in a tidy tree everything has a directory above it, so names
lead somewhere exactly if something is there.
-/

namespace DeltaStudy.Storage.FileTree

open DeltaStudy.Path (IsName ofNames)

variable {tree : FileTree} {location : Location} {names : List String} {name : String}

/-! ## What is where -/

theorem node?_put (tree : FileTree) (notRoot : location ≠ []) (node : Node) (other : Location) :
    (tree.put location node).node? other = if other = location then some node else tree.node? other := by
  by_cases here : other = location
  · subst here
    simp [node?, put, notRoot]
  · have elsewhere : (tree.nodes.filter fun entry => entry.1 ≠ location).find?
        (fun entry => entry.1 = other) = tree.nodes.find? fun entry => entry.1 = other := by
      rw [List.find?_filter]
      congr 1
      funext entry
      by_cases found : entry.1 = other
      · simp [found, here]
      · simp [found]
    simp only [node?, put, List.find?_cons, Ne.symm here, decide_false, if_neg here, elsewhere]

theorem node?_ne_none_of_mem {entry : Location × Node} (member : entry ∈ tree.nodes) :
    tree.node? entry.1 ≠ none := by
  rw [node?]
  split
  · exact Option.some_ne_none _
  · rw [Ne, Option.map_eq_none_iff, List.find?_eq_none]
    intro absent
    exact absent entry member (by simp)

theorem exists_mem_of_node?_ne_none (notRoot : location ≠ []) (found : tree.node? location ≠ none) :
    ∃ node, (location, node) ∈ tree.nodes := by
  rw [node?, if_neg notRoot, Ne, Option.map_eq_none_iff, List.find?_eq_none] at found
  push Not at found
  obtain ⟨⟨other, node⟩, member, here⟩ := found
  simp only [decide_eq_true_eq] at here
  exact ⟨node, here ▸ member⟩

/-- What names lead to from the working directory. -/
def nodeBelow? (tree : FileTree) (names : List String) : Option Node :=
  tree.node? (tree.workingDirectory ++ names)

/-- The content of the file that names lead to. -/
def contentBelow? (tree : FileTree) (names : List String) : Option (List UInt8) :=
  match tree.nodeBelow? names with
  | some (.file content _) => some content
  | _ => none

/-- Put something where names lead from the working directory. -/
def putBelow (tree : FileTree) (names : List String) (node : Node) : FileTree :=
  tree.put (tree.workingDirectory ++ names) node

theorem nodeBelow?_putBelow (tree : FileTree) (nonempty : names ≠ []) (node : Node)
    (others : List String) :
    (tree.putBelow names node).nodeBelow? others
      = if others = names then some node else tree.nodeBelow? others := by
  have notRoot : tree.workingDirectory ++ names ≠ [] := List.append_ne_nil_of_right_ne_nil _ nonempty
  have located := node?_put tree notRoot node (tree.workingDirectory ++ others)
  simp only [List.append_cancel_left_eq] at located
  exact located

/-! ## Tidy trees -/

/-- A tree with a working directory below which everything has a name and is in a directory. -/
structure Tidy (tree : FileTree) : Prop where
  home : tree.nodeBelow? [] = some .directory
  inDirectory : ∀ names name, tree.nodeBelow? (names ++ [name]) ≠ none →
    tree.nodeBelow? names = some .directory
  named : ∀ names, tree.nodeBelow? names ≠ none → ∀ name ∈ names, IsName name
  /-- Nothing below the working directory is in the tree twice. -/
  once : tree.nodes.Pairwise fun first second =>
    ∀ names, names ≠ [] → first.1 = tree.workingDirectory ++ names → second.1 ≠ first.1

/-- A tree with a working directory that is empty. -/
structure Fresh (tree : FileTree) : Prop where
  home : tree.nodeBelow? [] = some .directory
  empty : ∀ names, names ≠ [] → tree.nodeBelow? names = none

theorem Fresh.tidy (fresh : tree.Fresh) : tree.Tidy where
  home := fresh.home
  inDirectory names name found := absurd (fresh.empty _ (by simp)) found
  named names found := by
    cases names with
    | nil => exact fun _ member => nomatch member
    | cons first rest => exact absurd (fresh.empty _ (List.cons_ne_nil first rest)) found
  once := by
    refine List.pairwise_of_forall_mem_list fun first member second _ names nonempty located => ?_
    have found := node?_ne_none_of_mem member
    rw [located] at found
    exact absurd (fresh.empty names nonempty) found

/-- There is nothing but what is above the working directory. -/
theorem node?_ofWorkingDirectory (location other : Location) :
    (ofWorkingDirectory location).node? other = if other <+: location then some .directory else none := by
  by_cases root : other = []
  · simp [node?, root]
  · rw [node?, if_neg root]
    cases found : (ofWorkingDirectory location).nodes.find? fun entry => entry.1 = other with
    | none =>
      have absent : ¬ other <+: location := by
        intro above
        have depth : other.length - 1 + 1 = other.length :=
          Nat.sub_one_add_one (mt List.length_eq_zero_iff.mp root)
        have member : (other, Node.directory) ∈ (ofWorkingDirectory location).nodes := by
          refine List.mem_map.mpr ⟨other.length - 1, ?_, ?_⟩
          · rw [List.mem_range, ← Nat.add_one_le_iff, depth]
            exact above.length_le
          · rw [depth, ← List.prefix_iff_eq_take.mp above]
        exact List.find?_eq_none.mp found _ member (by simp)
      rw [if_neg absent, Option.map_none]
    | some entry =>
      obtain ⟨depth, -, rfl⟩ := List.mem_map.mp (List.mem_of_find?_eq_some found)
      have here : location.take (depth + 1) = other := by simpa using List.find?_some found
      rw [if_pos (here ▸ List.take_prefix _ location), Option.map_some]

theorem fresh_ofWorkingDirectory (location : Location) : (ofWorkingDirectory location).Fresh where
  home := by
    rw [nodeBelow?, node?_ofWorkingDirectory, if_pos]
    exact (List.append_nil location).symm ▸ List.prefix_rfl
  empty names nonempty := by
    rw [nodeBelow?, node?_ofWorkingDirectory, if_neg]
    intro above
    have short : (location ++ names).length ≤ location.length := above.length_le
    rw [List.length_append] at short
    exact nonempty (List.length_eq_zero_iff.mp (by omega))

/-! ## Following names -/

theorem stepFrom_name (location : Location) (isName : IsName name) :
    stepFrom location name = location ++ [name] := by
  rw [stepFrom, if_neg (not_or.mpr ⟨isName.nonempty, isName.not_current⟩), if_neg isName.not_parent]

/-- Names lead straight down. Each of them is a step from a directory, so everything above the
target has to be one. -/
theorem follow_eq_ok_iff (areNames : ∀ name ∈ names, IsName name) {target : Location} :
    tree.follow location names = .ok target ↔ target = location ++ names
      ∧ ∀ front name back, names = front ++ name :: back →
        tree.node? (location ++ front) = some .directory := by
  induction names generalizing location with
  | nil => simp [follow, eq_comm]
  | cons first rest inductionHypothesis =>
    rw [List.forall_mem_cons] at areNames
    have through : tree.follow location (first :: rest) = .ok target ↔
        tree.node? location = some .directory
          ∧ tree.follow (location ++ [first]) rest = .ok target := by
      rw [follow, stepFrom_name location areNames.1]
      cases tree.node? location with
      | none => simp
      | some node =>
        cases node with
        | file content executable => simp
        | directory => simp
    rw [through, inductionHypothesis areNames.2, List.append_assoc, List.singleton_append]
    constructor
    · rintro ⟨start, rfl, later⟩
      refine ⟨rfl, ?_⟩
      intro front name back split
      cases front with
      | nil => rwa [List.append_nil]
      | cons head front =>
        obtain ⟨rfl, split⟩ := List.cons_eq_cons.mp split
        simpa using later front name back (List.cons_inj_right first |>.mp split)
    · rintro ⟨rfl, all⟩
      refine ⟨by simpa using all [] first rest rfl, rfl, ?_⟩
      intro front name back split
      simpa using all (first :: front) name back (congrArg (first :: ·) split)

/-- In a tidy tree all that is above something is a directory. -/
theorem Tidy.directoryAbove (tidy : tree.Tidy) {front : List String} {name : String}
    {back : List String} (found : tree.nodeBelow? (front ++ name :: back) ≠ none) :
    tree.nodeBelow? front = some .directory := by
  induction back generalizing front name with
  | nil => exact tidy.inDirectory front name found
  | cons next rest inductionHypothesis =>
    have below : tree.nodeBelow? (front ++ [name]) = some .directory := by
      have further : tree.nodeBelow? ((front ++ [name]) ++ next :: rest) ≠ none := by
        rwa [List.append_assoc, List.singleton_append]
      exact inductionHypothesis further
    exact tidy.inDirectory front name (by simp [below])

/-- In a tidy tree only the directory right above counts. -/
theorem Tidy.follow_eq_ok_iff (tidy : tree.Tidy) (areNames : ∀ name ∈ names, IsName name)
    (isName : IsName name) (target : Location) :
    tree.follow tree.workingDirectory (names ++ [name]) = .ok target ↔
      target = tree.workingDirectory ++ (names ++ [name])
        ∧ tree.nodeBelow? names = some .directory := by
  have allNames := Path.forall_isName_concat_iff.mpr ⟨areNames, isName⟩
  rw [FileTree.follow_eq_ok_iff allNames]
  refine and_congr_right fun _ => ⟨fun all => all names name [] rfl, ?_⟩
  intro above front next back split
  rcases List.eq_nil_or_concat back with rfl | ⟨others, last, rfl⟩
  · obtain ⟨rfl, -⟩ := List.append_singleton_inj.mp split
    exact above
  · rw [List.concat_eq_append, ← List.cons_append, ← List.append_assoc] at split
    obtain ⟨rfl, -⟩ := List.append_singleton_inj.mp split
    exact tidy.directoryAbove (above ▸ Option.some_ne_none _)

/-! ## Paths of names -/

theorem startOf_ofNames (tree : FileTree) (nonempty : names ≠ [])
    (areNames : ∀ name ∈ names, IsName name) :
    tree.startOf (ofNames names) = tree.workingDirectory := by
  rw [startOf, Path.isAbsolute_ofNames nonempty areNames]
  rfl

theorem piecesOf_ofNames (nonempty : names ≠ []) (areNames : ∀ name ∈ names, IsName name) :
    piecesOf (ofNames names) = names := by
  have pieces := Path.piecesOf_ofNames nonempty areNames
  rw [Path.piecesOf] at pieces
  rw [piecesOf, pieces, List.map_map]
  exact List.map_id'' (fun _ => String.ofList_toList) names

theorem locate_ofNames (tree : FileTree) (nonempty : names ≠ [])
    (areNames : ∀ name ∈ names, IsName name) :
    tree.locate (ofNames names) = tree.follow tree.workingDirectory names := by
  rw [locate, if_neg (Path.text_ofNames_ne_empty nonempty areNames),
    startOf_ofNames tree nonempty areNames, piecesOf_ofNames nonempty areNames]

/-- Names do not end with a slash. -/
theorem withoutSlashes_names (areNames : ∀ name ∈ names, IsName name) :
    withoutSlashes names = names := by
  rw [withoutSlashes, List.dropWhile_eq_self_iff.mpr, List.reverse_reverse]
  intro filled
  have member : names.reverse[0] ∈ names := List.mem_reverse.mp (List.getElem_mem filled)
  simpa using (areNames _ member).nonempty

/-- A path of names leads to what is there. -/
theorem Tidy.lookup_eq_ok_iff (tidy : tree.Tidy) (nonempty : names ≠ [])
    (areNames : ∀ name ∈ names, IsName name) (node : Node) :
    tree.lookup (ofNames names) = .ok node ↔ tree.nodeBelow? names = some node := by
  obtain ⟨front, name, rfl⟩ := (List.eq_nil_or_concat' names).resolve_left nonempty
  obtain ⟨areFront, isName⟩ := Path.forall_isName_concat_iff.mp areNames
  rw [lookup, bind_eq_ok_iff, locate_ofNames tree nonempty areNames]
  simp only [tidy.follow_eq_ok_iff areFront isName]
  constructor
  · rintro ⟨_, ⟨rfl, -⟩, found⟩
    rw [← nodeBelow?] at found
    cases there : tree.nodeBelow? (front ++ [name]) with
    | none =>
      rw [there] at found
      cases found
    | some other =>
      rw [there] at found
      cases found
      rfl
  · intro found
    refine ⟨_, ⟨rfl, tidy.inDirectory front name (by simp [found])⟩, ?_⟩
    rw [← nodeBelow?, found]
    rfl

theorem contentBelow?_eq_some_iff {content : List UInt8} :
    tree.contentBelow? names = some content ↔
      ∃ executable, tree.nodeBelow? names = some (.file content executable) := by
  rw [contentBelow?]
  cases tree.nodeBelow? names with
  | none => simp
  | some node => cases node <;> simp

theorem Tidy.isFile_ofNames (tidy : tree.Tidy) (nonempty : names ≠ [])
    (areNames : ∀ name ∈ names, IsName name) :
    tree.isFile (ofNames names) = (tree.contentBelow? names).isSome := by
  have leads := tidy.lookup_eq_ok_iff nonempty areNames
  rw [Bool.eq_iff_iff, Option.isSome_iff_exists]
  simp only [contentBelow?_eq_some_iff, ← leads, isFile]
  cases tree.lookup (ofNames names) with
  | error refusal => simp
  | ok node => cases node <;> simp

/-- The content of a file can be read, and nothing else can. -/
theorem Tidy.contentOf_eq_ok_iff (tidy : tree.Tidy) (nonempty : names ≠ [])
    (areNames : ∀ name ∈ names, IsName name) (content : List UInt8) :
    tree.contentOf (ofNames names) = .ok content ↔ tree.contentBelow? names = some content := by
  rw [contentOf, bind_eq_ok_iff, contentBelow?_eq_some_iff]
  simp only [tidy.lookup_eq_ok_iff nonempty areNames]
  constructor
  · rintro ⟨node, found, read⟩
    cases node with
    | file stored executable =>
      cases read
      exact ⟨executable, found⟩
    | directory => cases read
  · rintro ⟨executable, found⟩
    exact ⟨_, found, rfl⟩

/-! ## Putting something into a directory -/

theorem Tidy.putBelow (tidy : tree.Tidy) (above : tree.nodeBelow? names = some .directory)
    (isName : IsName name) (vacant : tree.nodeBelow? (names ++ [name]) ≠ some .directory)
    (node : Node) : (tree.putBelow (names ++ [name]) node).Tidy := by
  have nonempty : names ++ [name] ≠ [] := by simp
  have found := nodeBelow?_putBelow tree nonempty node
  constructor
  case home => rw [found, if_neg nonempty.symm, tidy.home]
  case inDirectory =>
    intro front last stored
    rw [found] at stored ⊢
    by_cases here : front ++ [last] = names ++ [name]
    · obtain ⟨rfl, -⟩ := List.append_singleton_inj.mp here
      rw [if_neg (by simp), above]
    · rw [if_neg here] at stored
      have directory := tidy.inDirectory front last stored
      rw [if_neg, directory]
      rintro rfl
      exact vacant directory
  case named =>
    intro others stored
    rw [found] at stored
    by_cases here : others = names ++ [name]
    · subst here
      exact Path.forall_isName_concat_iff.mpr ⟨tidy.named names (by simp [above]), isName⟩
    · rw [if_neg here] at stored
      exact tidy.named others stored
  case once =>
    refine List.pairwise_cons.mpr ⟨?_, tidy.once.filter _⟩
    intro entry member others _ _
    simpa using (List.mem_filter.mp member).2

theorem contentBelow?_putBelow (tree : FileTree) (nonempty : names ≠ []) (content : List UInt8)
    (executable : Bool) (others : List String) :
    (tree.putBelow names (.file content executable)).contentBelow? others
      = if others = names then some content else tree.contentBelow? others := by
  rw [contentBelow?, nodeBelow?_putBelow tree nonempty, contentBelow?]
  by_cases here : others = names
  · simp [here]
  · simp [here]

/-- What comes back when a file is written, and what is left. -/
theorem run_write (tree : FileTree) (path : Path) (content : List UInt8) :
    (storage.write path content).run tree = match tree.store path content with
      | .ok stored => (.ok (), stored)
      | .error refusal => (.error (.unwrittenFile path refusal), tree) := by
  simp only [storage, StateT.run_bind, StateT.run_get, pure_bind]
  cases tree.store path content with
  | ok stored => rfl
  | error refusal => rfl

/-- A file is stored where no directory is, in a directory. -/
theorem Tidy.store_eq_ok (tidy : tree.Tidy) (areNames : ∀ name ∈ names, IsName name)
    (isName : IsName name) {content : List UInt8} {stored : FileTree}
    (succeeded : tree.store (ofNames (names ++ [name])) content = .ok stored) :
    tree.nodeBelow? names = some .directory
      ∧ tree.nodeBelow? (names ++ [name]) ≠ some .directory
      ∧ ∃ executable, stored = tree.putBelow (names ++ [name]) (.file content executable) := by
  have nonempty : names ++ [name] ≠ [] := by simp
  have allNames := Path.forall_isName_concat_iff.mpr ⟨areNames, isName⟩
  have closed : (names ++ [name]).getLast? ≠ some "" := by simpa using isName.nonempty
  simp only [store, if_neg (Path.text_ofNames_ne_empty nonempty allNames),
    piecesOf_ofNames nonempty allNames, startOf_ofNames tree nonempty allNames,
    withoutSlashes_names allNames, if_neg closed] at succeeded
  obtain ⟨target, followed, succeeded⟩ := bind_eq_ok_iff.mp succeeded
  obtain ⟨rfl, above⟩ := (tidy.follow_eq_ok_iff areNames isName target).mp followed
  refine ⟨above, ?_⟩
  rw [← nodeBelow?] at succeeded
  cases found : tree.nodeBelow? (names ++ [name]) with
  | none =>
    rw [found] at succeeded
    cases succeeded
    exact ⟨by simp, false, rfl⟩
  | some node =>
    rw [found] at succeeded
    cases node with
    | file _ executable =>
      cases succeeded
      exact ⟨by simp, executable, rfl⟩
    | directory => cases succeeded

end DeltaStudy.Storage.FileTree
