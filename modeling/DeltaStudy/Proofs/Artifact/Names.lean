import DeltaStudy.Proofs.Artifact.Columns
import DeltaStudy.Proofs.Text.Plain

/-!
# Names in a header

Header names are compared without the blanks around them, then without the byte order marks
in front of what is left, and in lower case. Both are taken off once and in this order, so
blanks that stand behind a mark stay where they are. A name with such blanks is not its own
compared form, and no field is found by it; every other name is compared as one expects.
-/

namespace DeltaStudy.Artifact

open Text (isBlank lowercase trimmed Plain)

/-! ## Marks -/

/-- Whether a character is a byte order mark. -/
def isMark (character : Char) : Bool :=
  character.toNat == 0xfeff

theorem isBlank_of_isMark {character : Char} (mark : isMark character = true) :
    isBlank character = false := by
  rw [isMark, beq_iff_eq] at mark
  simp [isBlank, mark]

theorem isMark_of_isBlank {character : Char} (blank : isBlank character = true) :
    isMark character = false := by
  cases mark : isMark character with
  | false => rfl
  | true =>
    rw [isBlank_of_isMark mark] at blank
    cases blank

theorem isMark_of_isPlain {character : Char} (plain : Text.isPlain character = true) :
    isMark character = false := by
  have bounds := Text.isPlain_iff.mp plain
  rw [isMark, beq_eq_false_iff_ne]
  omega

theorem isMark_toLower (character : Char) : isMark character.toLower = isMark character := by
  rw [isMark, isMark, Text.toNat_toLower]
  split
  case isTrue capital =>
    rw [Bool.eq_iff_iff, beq_iff_eq, beq_iff_eq]
    omega
  case isFalse => rfl

/-! ## Names without blanks and marks -/

/-- What is left of a name without the blanks around it and then the marks in front of it. -/
def bare (name : List Char) : List Char :=
  (trimmed name).dropWhile isMark

theorem normalizeName_eq (name : String) :
    normalizeName name = String.ofList ((bare name.toList).map Char.toLower) :=
  rfl

theorem bare_map_toLower (name : List Char) :
    bare (name.map Char.toLower) = (bare name).map Char.toLower := by
  have same : isMark ∘ Char.toLower = isMark := funext isMark_toLower
  rw [bare, Text.trimmed_map_toLower, List.dropWhile_map, same, bare]

/-- What is left of a name ends as the name does. -/
theorem dropTrailingBlanks_bare (name : List Char) :
    Text.dropTrailingBlanks (bare name) = bare name := by
  refine Text.dropTrailingBlanks_of_suffix (List.dropWhile_suffix isMark) ?_
  exact List.rdropWhile_idempotent isBlank _

theorem bare_sublist (name : List Char) : (bare name).Sublist name := by
  have marks : bare name <:+ trimmed name := List.dropWhile_suffix isMark
  have back : trimmed name <+: Text.dropLeadingBlanks name := List.rdropWhile_prefix isBlank _
  have front : Text.dropLeadingBlanks name <:+ name := List.dropWhile_suffix isBlank
  exact (marks.sublist.trans back.sublist).trans front.sublist

/-- A name with a blank directly behind the marks in front of it, once the blanks around it
are gone. -/
def HidesBlank (name : List Char) : Prop :=
  ∃ marks blank rest, trimmed name = marks ++ blank :: rest
    ∧ (∀ mark ∈ marks, isMark mark = true) ∧ isBlank blank = true

/-- The hidden blank is the first character that is left. -/
theorem hidesBlank_iff {name : List Char} :
    HidesBlank name ↔ ∃ blank rest, bare name = blank :: rest ∧ isBlank blank = true := by
  constructor
  · rintro ⟨marks, blank, rest, spelled, all, isBlank⟩
    refine ⟨blank, rest, ?_, isBlank⟩
    rw [bare, spelled, List.dropWhile_append_of_pos all]
    exact List.dropWhile_cons_of_neg (by simp [isMark_of_isBlank isBlank])
  · rintro ⟨blank, rest, left, isBlank⟩
    refine ⟨(trimmed name).takeWhile isMark, blank, rest, ?_, ?_, isBlank⟩
    · rw [← left, bare, List.takeWhile_append_dropWhile]
    · exact fun mark member => List.mem_takeWhile_imp member

/-- There is nothing more to take off exactly where no blank is hidden. -/
theorem bare_bare_iff {name : List Char} : bare (bare name) = bare name ↔ ¬ HidesBlank name := by
  rw [hidesBlank_iff, bare, trimmed]
  cases left : bare name with
  | nil => simp [Text.dropLeadingBlanks, Text.dropTrailingBlanks]
  | cons first rest =>
    cases blank : isBlank first with
    | true =>
      have shorter : (bare (first :: rest)).length ≤ rest.length := by
        have dropped : Text.dropLeadingBlanks (first :: rest) = Text.dropLeadingBlanks rest :=
          List.dropWhile_cons_of_pos blank
        rw [bare, trimmed, dropped]
        exact (bare_sublist rest).length_le
      refine iff_of_false (fun same => ?_) (fun hidden => hidden ⟨first, rest, rfl, blank⟩)
      have length := congrArg List.length same
      rw [← trimmed, ← bare, List.length_cons] at length
      omega
    | false =>
      have front : Text.dropLeadingBlanks (first :: rest) = first :: rest :=
        List.dropWhile_cons_of_neg (by simp [blank])
      have back : Text.dropTrailingBlanks (first :: rest) = first :: rest :=
        left ▸ dropTrailingBlanks_bare name
      have marks : (first :: rest).dropWhile isMark = first :: rest := by
        rw [← left]
        exact List.dropWhile_idempotent isMark _
      rw [front, back]
      refine iff_of_true marks ?_
      rintro ⟨hidden, others, same, isBlank⟩
      rw [← (List.cons.inj same).1, blank] at isBlank
      cases isBlank

/-- A name is compared like its compared form exactly if it hides no blank. -/
theorem normalizeName_normalizeName_iff (name : String) :
    normalizeName (normalizeName name) = normalizeName name ↔ ¬ HidesBlank name.toList := by
  have lower : Char.toLower ∘ Char.toLower = Char.toLower := funext Text.toLower_toLower
  rw [← bare_bare_iff, normalizeName_eq, normalizeName_eq, String.toList_ofList, bare_map_toLower,
    List.map_map, lower, String.ofList_inj]
  constructor
  · intro same
    have length := congrArg List.length same
    rw [List.length_map, List.length_map] at length
    exact (bare_sublist _).eq_of_length length
  · intro same
    rw [same]

/-! ## Names of fields with blanks and marks around them -/

/-- The name of a field in some case, with blanks and marks in front and blanks behind. -/
structure Decorates (field : Field) (front spelled back : List Char) : Prop where
  front : ∀ character ∈ front, isBlank character = true ∨ isMark character = true
  spelled : lowercase (String.ofList spelled) = field.name
  back : ∀ character ∈ back, isBlank character = true

/-- Blanks and then marks. -/
def MarksLast (front : List Char) : Prop :=
  ∃ blanks marks, front = blanks ++ marks
    ∧ (∀ blank ∈ blanks, isBlank blank = true) ∧ ∀ mark ∈ marks, isMark mark = true

theorem marksLast_iff {front : List Char} :
    MarksLast front ↔ (front.dropWhile isBlank).dropWhile isMark = [] := by
  rw [List.dropWhile_eq_nil_iff]
  constructor
  · rintro ⟨blanks, marks, rfl, allBlank, allMarks⟩ character member
    rw [List.dropWhile_append_of_pos allBlank] at member
    exact allMarks character ((List.dropWhile_suffix isBlank).subset member)
  · intro allMarks
    refine ⟨front.takeWhile isBlank, front.dropWhile isBlank, ?_, ?_, allMarks⟩
    · rw [List.takeWhile_append_dropWhile]
    · exact fun blank member => List.mem_takeWhile_imp member

theorem plain_name (field : Field) : Plain field.name := by
  have characters : field.name.toList.all Text.isPlain = true := by
    cases field <;> decide +kernel
  refine ⟨?_, List.all_eq_true.mp characters⟩
  cases field <;> decide

section Decorates

variable {field : Field} {front spelled back : List Char}
  (decorates : Decorates field front spelled back)
include decorates

/-- What is taken off a name of a field is in front of it and behind it. -/
theorem Decorates.bare_eq :
    bare (front ++ spelled ++ back) = (front.dropWhile isBlank).dropWhile isMark ++ spelled := by
  have plain : Plain (String.ofList spelled) :=
    .of_lowercase (decorates.spelled ▸ plain_name field)
  have characters : ∀ character ∈ spelled, Text.isPlain character = true := by
    simpa using plain.characters
  have nonempty : spelled ≠ [] := by simpa using plain.nonempty
  obtain ⟨first, rest, spelling⟩ := List.exists_cons_of_ne_nil nonempty
  have isPlain : Text.isPlain first = true := characters first (by simp [spelling])
  have leading : Text.dropLeadingBlanks (front ++ spelled ++ back)
      = front.dropWhile isBlank ++ spelled ++ back := by
    rw [spelling, List.append_assoc, List.append_assoc, List.cons_append, Text.dropLeadingBlanks,
      Text.dropWhile_append_cons (Text.isBlank_of_isPlain isPlain)]
  have trailing : Text.dropTrailingBlanks (front.dropWhile isBlank ++ spelled)
      = front.dropWhile isBlank ++ spelled := by
    refine List.rdropWhile_eq_self_iff.mpr fun _ => ?_
    rw [List.getLast_append_of_ne_nil _ nonempty, Bool.not_eq_true]
    exact Text.isBlank_of_isPlain (characters _ (List.getLast_mem nonempty))
  rw [bare, trimmed, leading, Text.dropTrailingBlanks_append _ decorates.back, trailing, spelling,
    Text.dropWhile_append_cons (isMark_of_isPlain isPlain)]

/-- Such a name counts as the name of the field exactly if the marks are behind the blanks. -/
theorem Decorates.normalizeName_iff :
    normalizeName (String.ofList (front ++ spelled ++ back)) = field.name ↔ MarksLast front := by
  have lower : spelled.map Char.toLower = field.name.toList := by
    rw [← decorates.spelled, lowercase, String.toList_ofList, String.toList_ofList]
  rw [marksLast_iff, normalizeName_eq, String.toList_ofList, decorates.bare_eq, List.map_append,
    lower, ← String.toList_inj, String.toList_ofList, List.append_left_eq_self,
    List.map_eq_nil_iff]

end Decorates

/-- A header name of which the lower case is the name of a field counts as that name. -/
theorem normalizeName_of_lowercase {text : String} {field : Field}
    (named : lowercase text = field.name) : normalizeName text = field.name := by
  have decorates : Decorates field [] text.toList [] := ⟨by simp, by simpa using named, by simp⟩
  have counts := decorates.normalizeName_iff.mpr ⟨[], [], rfl, by simp, by simp⟩
  rwa [List.nil_append, List.append_nil, String.ofList_toList] at counts

/-! ## Columns of such names -/

/-- The column that feeds a field, if there is one. -/
def Columns.place? (columns : Columns) : Field → Option Nat
  | .round => some columns.round
  | .miningTime => columns.miningTime
  | .difficulty => some columns.difficulty

/-- A field that has a column by its name is fed by that column. -/
theorem Resolved.place?_of_named {header : List String} {columns : Columns}
    (resolved : Resolved header columns) {field : Field} {column : Nat}
    (named : namedColumn? header field = some column) : columns.place? field = some column := by
  cases field with
  | round =>
    rcases resolved.round with own | ⟨gap, -⟩
    · exact own.symm.trans named
    · rw [gap] at named
      cases named
  | miningTime =>
    rw [Columns.place?, resolved.miningTime_eq, miningTimeColumn?, named]
  | difficulty =>
    rcases resolved.difficulty with own | ⟨gap, -⟩
    · exact own.symm.trans named
    · rw [gap] at named
      cases named

/-- The compared form of a name is compared as itself exactly if the name hides no blank. The
name of a field in any case, with blanks and marks in front and blanks behind, counts as the
field if and only if the marks are behind the blanks. The field is then fed by its column at
any place of a header that does not bear the name again further on. -/
theorem normalizeName_decorated (name : String) :
    (normalizeName (normalizeName name) = normalizeName name ↔ ¬ HidesBlank name.toList)
    ∧ ∀ field front spelled back, Decorates field front spelled back →
      name.toList = front ++ spelled ++ back →
      (normalizeName name = field.name ↔ MarksLast front)
      ∧ (MarksLast front → ∀ before after, (∀ later ∈ after, normalizeName later ≠ field.name) →
        namedColumn? (before ++ name :: after) field = some before.length
        ∧ ∀ artifact columns, resolveColumns artifact (before ++ name :: after) = .ok columns →
          columns.place? field = some before.length) := by
  refine ⟨normalizeName_normalizeName_iff name, fun field front spelled back decorates same => ?_⟩
  obtain rfl : String.ofList (front ++ spelled ++ back) = name := by
    rw [← same, String.ofList_toList]
  refine ⟨decorates.normalizeName_iff, fun marksLast before after latest => ?_⟩
  have counts := decorates.normalizeName_iff.mpr marksLast
  have bears : Bears (before ++ String.ofList (front ++ spelled ++ back) :: after) field
      before.length := ⟨before, _, after, rfl, rfl, counts, latest⟩
  have named := namedColumn?_eq_some_iff.mpr bears
  exact ⟨named, fun artifact columns resolved =>
    (resolveColumns_eq_ok_iff.mp resolved).place?_of_named named⟩

/-- A name with several blanks and marks in front, in the middle of a header. -/
theorem normalizeName_decorated_mixed :
    let front := [' ', '\t', '\ufeff', '\ufeff']
    let name := String.ofList (front ++ ['R', 'o', 'u', 'N', 'D'] ++ ['\u2003'])
    Decorates .round front ['R', 'o', 'u', 'N', 'D'] ['\u2003']
    ∧ name.toList = front ++ ['R', 'o', 'u', 'N', 'D'] ++ ['\u2003']
    ∧ MarksLast front ∧ (∀ later ∈ ["difficulty"], normalizeName later ≠ Field.round.name)
    ∧ normalizeName name = Field.round.name
    ∧ ∃ columns, resolveColumns ⟨"a.csv"⟩ (["x"] ++ name :: ["difficulty"]) = .ok columns
      ∧ columns.place? .round = some 1 := by
  intro front name
  have decorates : Decorates .round front ['R', 'o', 'u', 'N', 'D'] ['\u2003'] :=
    ⟨by simp [front, isBlank, isMark], by decide +kernel, by simp [isBlank]⟩
  have marksLast : MarksLast front :=
    ⟨[' ', '\t'], ['\ufeff', '\ufeff'], rfl, by simp [isBlank], by simp [isMark]⟩
  have latest : ∀ later ∈ ["difficulty"], normalizeName later ≠ Field.round.name := by
    decide +kernel
  have resolved : resolveColumns ⟨"a.csv"⟩ (["x"] ++ name :: ["difficulty"])
      = .ok ⟨1, none, 2, false⟩ := by decide +kernel
  have same : name.toList = front ++ ['R', 'o', 'u', 'N', 'D'] ++ ['\u2003'] :=
    String.toList_ofList
  obtain ⟨counts, found⟩ := (normalizeName_decorated name).2 .round front _ _ decorates same
  exact ⟨decorates, same, marksLast, latest, counts.mpr marksLast, _, resolved,
    (found marksLast ["x"] _ latest).2 _ _ resolved⟩

/-- With a blank behind a mark a name changes when it is compared again, and the column is
passed over: the rounds are read from the first column. -/
theorem normalizeName_blank_behind_mark :
    let name := String.ofList (['\ufeff', ' '] ++ ['r', 'o', 'u', 'n', 'd'] ++ [])
    Decorates .round ['\ufeff', ' '] ['r', 'o', 'u', 'n', 'd'] []
    ∧ normalizeName name ≠ Field.round.name
    ∧ normalizeName (normalizeName name) ≠ normalizeName name
    ∧ resolveColumns ⟨"a.csv"⟩ ["x", name, "difficulty"] = .ok ⟨0, some 1, 2, true⟩ := by
  intro name
  have decorates : Decorates .round ['\ufeff', ' '] ['r', 'o', 'u', 'n', 'd'] [] :=
    ⟨by simp [isBlank, isMark], by decide +kernel, List.forall_mem_nil _⟩
  exact ⟨decorates, by decide +kernel, by decide +kernel, by decide +kernel⟩

end DeltaStudy.Artifact
