import Mathlib.Data.List.Basic
import DeltaStudy.Path
import DeltaStudy.Proofs.Text.Pieces

/-!
# Spellings of a path

A slash that is repeated, a slash at the end and a `.` inside make no difference for a path.
A `.` in front of a relative path does. A path that is spelled by names with single slashes
between them has these names as its components.
-/

namespace DeltaStudy.Path

/-- The pieces of a text between its slashes. -/
def piecesOf (text : String) : List (List Char) :=
  Text.splitAt (· == '/') text.toList

/-- The components that the pieces of a text stand for. -/
def named (text : String) : List Component :=
  (piecesOf text).filterMap componentOf?

/-- The component in front of those that the pieces stand for. -/
def opening (text : String) : List Component :=
  if text.toList.head? == some '/' then [.root]
  else if (piecesOf text).head? == some ['.'] then [.current]
  else []

theorem components_eq (path : Path) : path.components = opening path.text ++ named path.text :=
  rfl

/-! ## What makes no difference -/

theorem piecesOf_slash (front back : String) :
    piecesOf (front ++ "/" ++ back) = piecesOf front ++ piecesOf back := by
  have spelled : (front ++ "/" ++ back).toList = front.toList ++ '/' :: back.toList := by
    simp
  rw [piecesOf, spelled, Text.splitAt_append_cons _ rfl]
  rfl

theorem named_slash (front back : String) :
    named (front ++ "/" ++ back) = named front ++ named back := by
  rw [named, piecesOf_slash, List.filterMap_append]
  rfl

/-- What stands behind a slash has no part in how a path opens. -/
theorem opening_slash (front back back' : String) :
    opening (front ++ "/" ++ back) = opening (front ++ "/" ++ back') := by
  have first : (piecesOf (front ++ "/" ++ back)).head? = (piecesOf (front ++ "/" ++ back')).head? := by
    rw [piecesOf_slash, piecesOf_slash, List.head?_append, List.head?_append]
    cases split : piecesOf front with
    | nil => exact absurd split (Text.splitAt_ne_nil _ _)
    | cons piece rest => rfl
  have start : (front ++ "/" ++ back).toList.head? = (front ++ "/" ++ back').toList.head? := by
    simp only [String.toList_append]
    cases front.toList <;> rfl
  rw [opening, opening, first, start]

/-- Behind a slash only the components count. -/
theorem same_of_named {front back back' : String} (alike : named back = named back') :
    (⟨front ++ "/" ++ back⟩ : Path).same ⟨front ++ "/" ++ back'⟩ = true := by
  rw [same, beq_iff_eq, components_eq, components_eq]
  simp only [named_slash, alike, opening_slash front back back']

/-- A slash at the end, with or without a point behind it, makes no difference. -/
theorem same_of_nothing {front back : String} (filled : front ≠ "") (nothing : named back = []) :
    (⟨front ++ "/" ++ back⟩ : Path).same ⟨front⟩ = true := by
  have opened : opening (front ++ "/" ++ back) = opening front := by
    have first : (piecesOf (front ++ "/" ++ back)).head? = (piecesOf front).head? := by
      rw [piecesOf_slash, List.head?_append]
      cases split : piecesOf front with
      | nil => exact absurd split (Text.splitAt_ne_nil _ _)
      | cons piece rest => rfl
    have start : (front ++ "/" ++ back).toList.head? = front.toList.head? := by
      simp only [String.toList_append]
      cases spelled : front.toList with
      | nil => exact absurd (String.toList_eq_nil_iff.mp spelled) filled
      | cons character rest => rfl
    rw [opening, opening, first, start]
  rw [same, beq_iff_eq, components_eq, components_eq]
  simp only [named_slash, nothing, List.append_nil, opened]

/-- Which spellings are the same path. -/
structure SpellingRules : Prop where
  repeatedSlash : ∀ front back : String,
    (⟨front ++ "//" ++ back⟩ : Path).same ⟨front ++ "/" ++ back⟩ = true
  innerPoint : ∀ front back : String,
    (⟨front ++ "/./" ++ back⟩ : Path).same ⟨front ++ "/" ++ back⟩ = true
  finalSlash : ∀ front : String, front ≠ "" → (⟨front ++ "/"⟩ : Path).same ⟨front⟩ = true
  /-- A point in front is kept, unless there is one already. -/
  leadingPoint : ∀ back : String, (⟨back⟩ : Path).components.head? ≠ some .current →
    (⟨"./" ++ back⟩ : Path).same ⟨back⟩ = false

theorem spellingRules : SpellingRules where
  repeatedSlash := by
    intro front back
    have spelled : front ++ "//" ++ back = front ++ "/" ++ ("/" ++ back) :=
      String.toList_injective (by simp)
    rw [spelled]
    exact same_of_named (named_slash "" back)
  innerPoint := by
    intro front back
    have spelled : front ++ "/./" ++ back = front ++ "/" ++ ("./" ++ back) :=
      String.toList_injective (by simp)
    rw [spelled]
    exact same_of_named (named_slash "." back)
  finalSlash := by
    intro front filled
    rw [← String.append_empty (s := front ++ "/")]
    exact same_of_nothing filled rfl
  leadingPoint := by
    intro back notCurrent
    have opened : opening ("./" ++ back) = [.current] := by
      have pieces : piecesOf ("./" ++ back) = ['.'] :: piecesOf back := piecesOf_slash "." back
      have start : ("./" ++ back).toList.head? = some '.' := by
        rw [String.toList_append]
        rfl
      rw [opening, pieces, start]
      rfl
    rw [same, beq_eq_false_iff_ne, components_eq, opened]
    intro equal
    exact notCurrent (by rw [← equal]; rfl)

/-! ## The directory of a path -/

/-- A path is held by what is left without its last component, unless that is the root. -/
theorem parentComponents?_eq_some_iff {path : Path} {components : List Component} :
    path.parentComponents? = some components ↔
      ∃ last, last ≠ .root ∧ path.components = components ++ [last] := by
  rw [parentComponents?]
  rcases List.eq_nil_or_concat path.components with nothing | ⟨front, last, spelled⟩
  · simp [nothing]
  · simp only [spelled, List.concat_eq_append, List.getLast?_concat, List.dropLast_concat]
    cases last with
    | root =>
      constructor
      · intro impossible
        cases impossible
      · rintro ⟨last, notRoot, equal⟩
        exact absurd (List.append_singleton_inj.mp equal).2.symm notRoot
    | _ =>
      constructor
      · intro equal
        cases equal
        exact ⟨_, by simp, rfl⟩
      · rintro ⟨last, -, equal⟩
        rw [(List.append_singleton_inj.mp equal).1]

/-! ## Names with slashes between them -/

/-- A text that stands for itself between two slashes. -/
structure IsName (text : String) : Prop where
  nonempty : text ≠ ""
  not_current : text ≠ "."
  not_parent : text ≠ ".."
  clear : '/' ∉ text.toList

instance (text : String) : Decidable (IsName text) :=
  decidable_of_iff (text ≠ "" ∧ text ≠ "." ∧ text ≠ ".." ∧ '/' ∉ text.toList)
    ⟨fun ⟨nonempty, notCurrent, notParent, clear⟩ => ⟨nonempty, notCurrent, notParent, clear⟩,
      fun ⟨nonempty, notCurrent, notParent, clear⟩ => ⟨nonempty, notCurrent, notParent, clear⟩⟩

/-- The path that is spelled by names with single slashes between them. -/
def ofNames (names : List String) : Path :=
  ⟨"/".intercalate names⟩

/-- A path of one or more names. -/
def Plain (path : Path) : Prop :=
  ∃ names, names ≠ [] ∧ (∀ name ∈ names, IsName name) ∧ path = ofNames names

theorem IsName.componentOf? {text : String} (isName : IsName text) :
    Path.componentOf? text.toList = some (.name text) := by
  have nothing : ¬ (text.toList = [] ∨ text.toList = ['.']) := by
    rintro (empty | point)
    · exact isName.nonempty (String.toList_eq_nil_iff.mp empty)
    · exact isName.not_current (String.toList_injective point)
  have notParent : text.toList ≠ ['.', '.'] := fun points =>
    isName.not_parent (String.toList_injective points)
  rw [Path.componentOf?, if_neg nothing, if_neg notParent, String.ofList_toList]

theorem piecesOf_name {text : String} (isName : IsName text) : piecesOf text = [text.toList] := by
  refine Text.splitAt_of_clear fun character member => ?_
  rw [beq_eq_false_iff_ne]
  rintro rfl
  exact isName.clear member

variable {names : List String}

theorem forall_isName_concat_iff {name : String} :
    (∀ other ∈ names ++ [name], IsName other) ↔ (∀ other ∈ names, IsName other) ∧ IsName name := by
  simp [or_imp, forall_and]

/-- The names are the pieces between the slashes. -/
theorem piecesOf_ofNames (nonempty : names ≠ []) (areNames : ∀ name ∈ names, IsName name) :
    piecesOf (ofNames names).text = names.map String.toList := by
  induction names with
  | nil => exact absurd rfl nonempty
  | cons first rest inductionHypothesis =>
    rw [List.forall_mem_cons] at areNames
    cases rest with
    | nil =>
      rw [ofNames, String.intercalate_singleton]
      exact piecesOf_name areNames.1
    | cons second others =>
      have later := inductionHypothesis (List.cons_ne_nil _ _) areNames.2
      rw [ofNames, String.intercalate_cons_cons, piecesOf_slash, piecesOf_name areNames.1]
      exact congrArg ([first.toList] ++ ·) later

/-- A path of names starts with the first character of its first name. -/
theorem exists_head?_ofNames (nonempty : names ≠ []) (areNames : ∀ name ∈ names, IsName name) :
    ∃ character, (ofNames names).text.toList.head? = some character ∧ character ≠ '/' := by
  cases names with
  | nil => exact absurd rfl nonempty
  | cons first rest =>
    have isName := areNames first List.mem_cons_self
    cases spelled : first.toList with
    | nil => exact absurd (String.toList_eq_nil_iff.mp spelled) isName.nonempty
    | cons character others =>
      refine ⟨character, ?_, ?_⟩
      · cases rest with
        | nil => rw [ofNames, String.intercalate_singleton, spelled, List.head?_cons]
        | cons second later =>
          rw [ofNames, String.intercalate_cons_cons, String.toList_append, String.toList_append,
            spelled]
          rfl
      · rintro rfl
        exact isName.clear (by simp [spelled])

theorem isAbsolute_ofNames (nonempty : names ≠ []) (areNames : ∀ name ∈ names, IsName name) :
    (ofNames names).isAbsolute = false := by
  obtain ⟨character, start, notSlash⟩ := exists_head?_ofNames nonempty areNames
  simp [isAbsolute, start, notSlash]

theorem text_ofNames_ne_empty (nonempty : names ≠ []) (areNames : ∀ name ∈ names, IsName name) :
    (ofNames names).text ≠ "" := by
  obtain ⟨character, start, -⟩ := exists_head?_ofNames nonempty areNames
  intro empty
  rw [empty] at start
  cases start

/-- The names are the components. -/
theorem components_ofNames (nonempty : names ≠ []) (areNames : ∀ name ∈ names, IsName name) :
    (ofNames names).components = names.map .name := by
  have pieces := piecesOf_ofNames nonempty areNames
  have opened : opening (ofNames names).text = [] := by
    have relative := isAbsolute_ofNames nonempty areNames
    rw [isAbsolute] at relative
    rw [opening, relative, pieces]
    cases names with
    | nil => exact absurd rfl nonempty
    | cons first rest =>
      have isName := areNames first List.mem_cons_self
      have notPoint : first.toList ≠ ['.'] := fun point =>
        isName.not_current (String.toList_injective point)
      simp [notPoint]
  rw [components_eq, opened, named, pieces, List.nil_append, List.filterMap_map]
  have each : names.filterMap (componentOf? ∘ String.toList) = names.filterMap (some ∘ Component.name) :=
    List.filterMap_congr fun name member => (areNames name member).componentOf?
  rw [each, List.filterMap_eq_map]

theorem same_ofNames_iff {others : List String} (nonempty : names ≠ [])
    (areNames : ∀ name ∈ names, IsName name) (nonempty' : others ≠ [])
    (areNames' : ∀ name ∈ others, IsName name) :
    (ofNames names).same (ofNames others) = true ↔ names = others := by
  rw [same, beq_iff_eq, components_ofNames nonempty areNames,
    components_ofNames nonempty' areNames']
  exact List.map_inj_right fun _ _ => Component.name.inj

/-- There is only one spelling by names. -/
theorem Plain.eq_of_same {left right : Path} (plain : left.Plain) (plain' : right.Plain)
    (same : left.same right = true) : left = right := by
  obtain ⟨names, nonempty, areNames, rfl⟩ := plain
  obtain ⟨others, nonempty', areNames', rfl⟩ := plain'
  rw [(same_ofNames_iff nonempty areNames nonempty' areNames').mp same]

/-- A path of names is held by the one without the last name. -/
theorem parentComponents?_ofNames_iff {others : List String} (nonempty : names ≠ [])
    (areNames : ∀ name ∈ names, IsName name) (nonempty' : others ≠ [])
    (areNames' : ∀ name ∈ others, IsName name) :
    (ofNames others).parentComponents? = some (ofNames names).components ↔
      ∃ name, others = names ++ [name] := by
  rw [parentComponents?_eq_some_iff, components_ofNames nonempty areNames,
    components_ofNames nonempty' areNames']
  constructor
  · rintro ⟨last, -, spelled⟩
    obtain ⟨front, back, rfl, frontSpelled, backSpelled⟩ := List.map_eq_append_iff.mp spelled
    obtain ⟨name, rfl, -⟩ := List.map_eq_singleton_iff.mp backSpelled
    exact ⟨name, by rw [(List.map_inj_right fun _ _ => Component.name.inj).mp frontSpelled]⟩
  · rintro ⟨name, rfl⟩
    exact ⟨.name name, by simp, by simp⟩

theorem ofNames_concat (nonempty : names ≠ []) (name : String) :
    ofNames (names ++ [name]) = ⟨(ofNames names).text ++ "/" ++ name⟩ := by
  induction names with
  | nil => exact absurd rfl nonempty
  | cons first rest inductionHypothesis =>
    cases rest with
    | nil => rw [ofNames, ofNames, List.singleton_append, String.intercalate_cons_cons,
        String.intercalate_singleton, String.intercalate_singleton]
    | cons second others =>
      have later := congrArg Path.text (inductionHypothesis (List.cons_ne_nil _ _))
      simp only [ofNames, List.cons_append] at later ⊢
      rw [String.intercalate_cons_cons, later, String.intercalate_cons_cons]
      simp only [String.append_assoc]

/-- A path of names does not end with a slash, because its last name is not empty. -/
theorem getLast?_ofNames (nonempty : names ≠ []) (areNames : ∀ name ∈ names, IsName name) :
    (ofNames names).text.toList.getLast? ≠ some '/' := by
  intro ends
  obtain ⟨front, spelled⟩ := List.getLast?_eq_some_iff.mp ends
  have pieces := piecesOf_ofNames nonempty areNames
  rw [piecesOf, spelled, Text.splitAt_append_cons _ rfl] at pieces
  have member : [] ∈ names.map String.toList := by
    rw [← pieces]
    exact List.mem_append_right _ List.mem_cons_self
  obtain ⟨name, isIn, empty⟩ := List.mem_map.mp member
  exact (areNames name isIn).nonempty (String.toList_eq_nil_iff.mp empty)

/-- Below a directory that is spelled by names, a name is spelled behind them. -/
theorem join_ofNames {name : String} (nonempty : names ≠ [])
    (areNames : ∀ name ∈ names, IsName name) (isName : IsName name) :
    (ofNames names).join ⟨name⟩ = ofNames (names ++ [name]) := by
  have relative : (⟨name⟩ : Path).isAbsolute = false := by
    rw [isAbsolute, beq_eq_false_iff_ne]
    intro slash
    exact isName.clear (List.mem_of_mem_head? slash)
  have filled := text_ofNames_ne_empty nonempty areNames
  have notSlash := getLast?_ofNames nonempty areNames
  rw [ofNames_concat nonempty, join]
  simp only [relative, filled, notSlash, Bool.false_or, decide_false, Bool.false_eq_true,
    if_false, beq_iff_eq]

end DeltaStudy.Path
