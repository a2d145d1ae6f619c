import DeltaStudy.Proofs.Text.Plain
import DeltaStudy.Proofs.Text.Pieces
import DeltaStudy.Text.Lines

/-!
# Laws of lines

Lines that are written are read again as long as none of them has a line feed in it. A line
with line feeds in it is broken into its pieces, and nothing tells them from lines that were
written on their own. In an indented text every piece but the first one shows that it is
none.
-/

namespace DeltaStudy.Text

/-- Whether a character is the end of a line. -/
abbrev endsLine (character : Char) : Bool :=
  character == '\n'

/-- The lines of a text. Each of them is ended by a line feed, so what stands behind the
last line feed is no line. -/
def linesOf (text : String) : List String :=
  ((splitAt endsLine text.toList).map String.ofList).dropLast

/-- What a line is broken into by the line feeds in it. -/
def brokenLines (line : String) : List String :=
  (splitAt endsLine line.toList).map String.ofList

/-- A text without a line feed. -/
def Unbroken (text : String) : Prop :=
  '\n' ∉ text.toList

instance (text : String) : Decidable (Unbroken text) :=
  inferInstanceAs (Decidable (_ ∉ _))

/-! ## Texts without line feeds -/

theorem unbroken_append_iff {left right : String} :
    Unbroken (left ++ right) ↔ Unbroken left ∧ Unbroken right := by
  rw [Unbroken, String.toList_append, List.mem_append]
  exact not_or

theorem Unbroken.append {left right : String} (unbroken : Unbroken left)
    (unbroken' : Unbroken right) : Unbroken (left ++ right) :=
  unbroken_append_iff.mpr ⟨unbroken, unbroken'⟩

/-- What is joined has the elements of the separator and of the parts. -/
theorem mem_of_mem_intercalate {α : Type} {separator : List α} {parts : List (List α)}
    {element : α} (member : element ∈ separator.intercalate parts) :
    element ∈ separator ∨ ∃ part ∈ parts, element ∈ part := by
  induction parts with
  | nil => cases member
  | cons part rest inductionHypothesis =>
    cases rest with
    | nil =>
      rw [List.intercalate_singleton] at member
      exact .inr ⟨part, List.mem_cons_self, member⟩
    | cons next others =>
      rw [List.intercalate_cons_cons, List.mem_append, List.mem_append] at member
      rcases member with (inPart | inSeparator) | later
      · exact .inr ⟨part, List.mem_cons_self, inPart⟩
      · exact .inl inSeparator
      · refine (inductionHypothesis later).imp_right ?_
        rintro ⟨other, among, inOther⟩
        exact ⟨other, List.mem_cons_of_mem _ among, inOther⟩

theorem Unbroken.joined {separator : String} {texts : List String}
    (unbroken : Unbroken separator) (all : ∀ text ∈ texts, Unbroken text) :
    Unbroken (joined separator texts) := by
  rw [Unbroken, Text.joined, String.toList_intercalate]
  intro member
  rcases mem_of_mem_intercalate member with inSeparator | ⟨part, isPart, inPart⟩
  · exact unbroken inSeparator
  · obtain ⟨text, among, rfl⟩ := List.mem_map.mp isPart
    exact all text among inPart

theorem Plain.unbroken {text : String} (plain : Plain text) : Unbroken text := by
  intro member
  exact absurd (plain.characters _ member) (by decide)

/-- Pieces have no line feed. -/
theorem unbroken_of_mem_brokenLines {line piece : String} (member : piece ∈ brokenLines line) :
    Unbroken piece := by
  obtain ⟨characters, isPiece, rfl⟩ := List.mem_map.mp member
  rw [Unbroken, String.toList_ofList]
  intro lineFeed
  exact absurd (mem_of_mem_splitAt isPiece lineFeed).2 (by decide)

theorem unbroken_of_mem_linesOf {text line : String} (member : line ∈ linesOf text) :
    Unbroken line :=
  unbroken_of_mem_brokenLines (List.dropLast_subset _ member)

/-! ## Broken lines -/

theorem endsLine_of_ne {character : Char} (different : character ≠ '\n') :
    endsLine character = false :=
  beq_eq_false_iff_ne.mpr different

theorem endsLine_of_notMem {text : List Char} (unbroken : '\n' ∉ text) :
    ∀ character ∈ text, endsLine character = false := by
  intro character member
  apply endsLine_of_ne
  rintro rfl
  exact unbroken member

theorem brokenLines_of_unbroken {line : String} (unbroken : Unbroken line) :
    brokenLines line = [line] := by
  rw [brokenLines, splitAt_of_clear (endsLine_of_notMem unbroken), List.map_singleton,
    String.ofList_toList]

/-- A line is broken into one piece more than it has line feeds. -/
theorem length_brokenLines (line : String) :
    (brokenLines line).length = line.toList.count '\n' + 1 := by
  rw [brokenLines, List.length_map]
  induction line.toList with
  | nil => rfl
  | cons character rest inductionHypothesis =>
    by_cases ends : character = '\n'
    · subst ends
      rw [splitAt_cons_of_pos rfl, List.length_cons, inductionHypothesis, List.count_cons_self]
    · obtain ⟨piece, pieces, split⟩ :=
        List.exists_cons_of_ne_nil (splitAt_ne_nil endsLine rest)
      rw [splitAt_cons_of_neg (endsLine_of_ne ends) split, List.length_cons,
        List.count_cons_of_ne ends, ← inductionHypothesis, split, List.length_cons]

/-- Written lines are read as what they are broken into. -/
theorem linesOf_written (lines : List String) :
    linesOf (written lines) = lines.flatMap brokenLines := by
  have split : splitAt endsLine (lines.flatMap fun line => line.toList ++ ['\n'])
      = lines.flatMap (fun line => splitAt endsLine line.toList) ++ [[]] := by
    induction lines with
    | nil => rfl
    | cons line rest inductionHypothesis =>
      rw [List.flatMap_cons, List.append_assoc, List.singleton_append,
        splitAt_append_cons _ rfl, inductionHypothesis, List.flatMap_cons, List.append_assoc]
  rw [linesOf, written, String.toList_ofList, split, List.map_append, List.map_singleton,
    List.dropLast_concat, List.map_flatMap]
  rfl

/-- Lines without line feeds are read as they were written. -/
theorem flatMap_brokenLines_of_unbroken {lines : List String}
    (unbroken : ∀ line ∈ lines, Unbroken line) : lines.flatMap brokenLines = lines := by
  rw [List.flatMap_congr fun line member => brokenLines_of_unbroken (unbroken line member),
    List.flatMap_singleton']

/-- Lines are read as they were written only if none of them is broken. -/
theorem flatMap_brokenLines_eq_iff {lines : List String} :
    lines.flatMap brokenLines = lines ↔ ∀ line ∈ lines, Unbroken line := by
  constructor
  · intro same line member
    rw [← same] at member
    obtain ⟨whole, -, isPiece⟩ := List.mem_flatMap.mp member
    exact unbroken_of_mem_brokenLines isPiece
  · exact flatMap_brokenLines_of_unbroken

/-! ## Indented texts -/

/-- Characters without a line feed belong to the first piece of what they stand in front of. -/
theorem splitAt_append_of_unbroken {front : List Char} (unbroken : '\n' ∉ front)
    {back first : List Char} {others : List (List Char)}
    (split : splitAt endsLine back = first :: others) :
    splitAt endsLine (front ++ back) = (front ++ first) :: others := by
  induction front with
  | nil => exact split
  | cons character rest inductionHypothesis =>
    rw [List.mem_cons, not_or] at unbroken
    exact splitAt_cons_of_neg (endsLine_of_ne (Ne.symm unbroken.1))
      (inductionHypothesis unbroken.2)

/-- Every piece of an indented text but the first one is indented. -/
theorem splitAt_indented {text first : List Char} {others : List (List Char)}
    (split : splitAt endsLine text = first :: others) :
    splitAt endsLine (text.flatMap indentedCharacter)
      = first :: others.map (indentation ++ ·) := by
  induction text generalizing first others with
  | nil =>
    cases split
    rfl
  | cons character rest inductionHypothesis =>
    obtain ⟨piece, pieces, later⟩ := List.exists_cons_of_ne_nil (splitAt_ne_nil endsLine rest)
    have behind := inductionHypothesis later
    rw [List.flatMap_cons]
    by_cases ends : character = '\n'
    · subst ends
      rw [splitAt_cons_of_pos rfl, later] at split
      cases split
      show splitAt endsLine ('\n' :: (indentation ++ _)) = _
      rw [splitAt_cons_of_pos rfl, splitAt_append_of_unbroken (by decide) behind]
      rfl
    · have inside := endsLine_of_ne ends
      rw [splitAt_cons_of_neg inside later] at split
      cases split
      rw [indentedCharacter, if_neg ends, List.singleton_append]
      exact splitAt_cons_of_neg inside behind

/-- The pieces of a text with a line feed between each two are the text. -/
theorem intercalate_splitAt (text : List Char) :
    ['\n'].intercalate (splitAt endsLine text) = text := by
  induction text with
  | nil => rfl
  | cons character rest inductionHypothesis =>
    obtain ⟨piece, pieces, split⟩ := List.exists_cons_of_ne_nil (splitAt_ne_nil endsLine rest)
    by_cases ends : character = '\n'
    · subst ends
      rw [splitAt_cons_of_pos rfl, split, List.intercalate_cons_cons, ← split,
        inductionHypothesis]
      rfl
    · rw [splitAt_cons_of_neg (endsLine_of_ne ends) split]
      rw [split] at inductionHypothesis
      cases pieces with
      | nil =>
        rw [List.intercalate_singleton] at inductionHypothesis ⊢
        rw [inductionHypothesis]
      | cons next others =>
        rw [List.intercalate_cons_cons] at inductionHypothesis ⊢
        rw [List.cons_append, List.cons_append, inductionHypothesis]

end DeltaStudy.Text
