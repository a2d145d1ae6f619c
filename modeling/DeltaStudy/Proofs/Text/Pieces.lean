import DeltaStudy.Text.Split

/-!
# Laws of splitting

A text always has a last piece. A text without separators is its own only piece, and
where two texts meet the last piece of the one and the first piece of the
other become one piece. No piece has a separator in it.
-/

namespace DeltaStudy.Text

variable {α : Type} {separates : α → Bool}

theorem splitAt_cons_of_pos {head : α} (separator : separates head = true) (tail : List α) :
    splitAt separates (head :: tail) = [] :: splitAt separates tail := by
  rw [splitAt, if_pos separator]

theorem splitAt_cons_of_neg {head : α} {tail piece : List α} {pieces : List (List α)}
    (inside : separates head = false) (split : splitAt separates tail = piece :: pieces) :
    splitAt separates (head :: tail) = (head :: piece) :: pieces := by
  rw [splitAt, if_neg (by simp [inside]), split]

/-- A text without separators is its only piece. -/
theorem splitAt_of_clear {text : List α} (clear : ∀ element ∈ text, separates element = false) :
    splitAt separates text = [text] := by
  induction text with
  | nil => rfl
  | cons head tail inductionHypothesis =>
    have rest := inductionHypothesis fun element member => clear element (by simp [member])
    exact splitAt_cons_of_neg (clear head List.mem_cons_self) rest

/-- There is always a last piece, and it becomes one with the first piece of a text
that follows. -/
theorem exists_last_splitAt (separates : α → Bool) (front : List α) :
    ∃ pieces last, splitAt separates front = pieces ++ [last]
      ∧ ∀ back first others, splitAt separates back = first :: others →
        splitAt separates (front ++ back) = pieces ++ (last ++ first) :: others := by
  induction front with
  | nil => exact ⟨[], [], rfl, fun _ _ _ split => split⟩
  | cons head tail inductionHypothesis =>
    obtain ⟨pieces, last, split, joined⟩ := inductionHypothesis
    cases inside : separates head with
    | true =>
      refine ⟨[] :: pieces, last, ?_, ?_⟩
      · rw [splitAt_cons_of_pos inside, split, List.cons_append]
      · intro back first others backSplit
        rw [List.cons_append, splitAt_cons_of_pos inside, joined back first others backSplit,
          List.cons_append]
    | false =>
      cases pieces with
      | nil =>
        refine ⟨[], head :: last, splitAt_cons_of_neg inside split, ?_⟩
        intro back first others backSplit
        exact splitAt_cons_of_neg inside (joined back first others backSplit)
      | cons piece between =>
        refine ⟨(head :: piece) :: between, last, splitAt_cons_of_neg inside split, ?_⟩
        intro back first others backSplit
        exact splitAt_cons_of_neg inside (joined back first others backSplit)

/-- A separator parts what stands before it from what stands behind. -/
theorem splitAt_append_cons (front : List α) {separator : α} (separated : separates separator = true)
    (back : List α) :
    splitAt separates (front ++ separator :: back)
      = splitAt separates front ++ splitAt separates back := by
  obtain ⟨pieces, last, split, joined⟩ := exists_last_splitAt separates front
  rw [joined _ _ _ (splitAt_cons_of_pos separated back), split, List.append_nil, List.append_assoc,
    List.singleton_append]

/-- What stands before and behind the last separator is determined by the whole. -/
theorem append_cons_inj {front front' back back' : List α} {separator : α}
    (clear : separator ∉ back) (clear' : separator ∉ back') :
    front ++ separator :: back = front' ++ separator :: back' ↔ front = front' ∧ back = back' := by
  constructor
  · intro same
    rcases List.append_eq_append_iff.mp same with
      ⟨between, spelled, rest⟩ | ⟨between, spelled, rest⟩
    · cases between with
      | nil => exact ⟨by simpa using spelled.symm, by simpa using rest⟩
      | cons first others =>
        rw [List.cons_append, List.cons.injEq] at rest
        exact absurd (by simp [rest.2]) clear
    · cases between with
      | nil => exact ⟨by simpa using spelled, by simpa using rest.symm⟩
      | cons first others =>
        rw [List.cons_append, List.cons.injEq] at rest
        exact absurd (by simp [rest.2]) clear'
  · rintro ⟨rfl, rfl⟩
    rfl

theorem splitAt_ne_nil (separates : α → Bool) (text : List α) : splitAt separates text ≠ [] := by
  obtain ⟨pieces, last, split, -⟩ := exists_last_splitAt separates text
  rw [split]
  simp

/-- The last piece is empty if the text is, or if it ends with a separator. -/
theorem last_splitAt_eq_nil_iff {text last : List α} {pieces : List (List α)}
    (split : splitAt separates text = pieces ++ [last]) :
    last = [] ↔ text = [] ∨ ∃ separator, text.getLast? = some separator
      ∧ separates separator = true := by
  rcases List.eq_nil_or_concat text with rfl | ⟨front, final, rfl⟩
  · have single : [] ++ [[]] = pieces ++ [last] := split
    have empty : last = [] := (List.singleton_inj.mp (List.append_inj_right' single rfl)).symm
    simp [empty]
  · rw [List.concat_eq_append] at split ⊢
    cases inside : separates final with
    | true =>
      rw [splitAt_append_cons front inside] at split
      have empty : last = [] := (List.singleton_inj.mp (List.append_inj_right' split rfl)).symm
      simp [empty, inside]
    | false =>
      obtain ⟨others, piece, -, joined⟩ := exists_last_splitAt separates front
      have clear : ∀ element ∈ [final], separates element = false := by simpa using inside
      rw [joined _ _ _ (splitAt_of_clear clear)] at split
      have filled : last = piece ++ [final] :=
        (List.singleton_inj.mp (List.append_inj_right' split rfl)).symm
      simp [filled, inside]

/-- Pieces are made of what does not separate. -/
theorem mem_of_mem_splitAt {text piece : List α} {element : α}
    (isPiece : piece ∈ splitAt separates text) (member : element ∈ piece) :
    element ∈ text ∧ separates element = false := by
  induction text generalizing piece with
  | nil =>
    obtain rfl := List.mem_singleton.mp isPiece
    cases member
  | cons head tail inductionHypothesis =>
    cases inside : separates head with
    | true =>
      rw [splitAt_cons_of_pos inside] at isPiece
      rcases List.mem_cons.mp isPiece with rfl | later
      · cases member
      · exact (inductionHypothesis later member).imp_left (List.mem_cons_of_mem _)
    | false =>
      obtain ⟨first, others, split⟩ := List.exists_cons_of_ne_nil (splitAt_ne_nil separates tail)
      rw [splitAt_cons_of_neg inside split] at isPiece
      rw [split] at inductionHypothesis
      rcases List.mem_cons.mp isPiece with rfl | later
      · rcases List.mem_cons.mp member with rfl | behind
        · exact ⟨List.mem_cons_self, inside⟩
        · exact (inductionHypothesis List.mem_cons_self behind).imp_left (List.mem_cons_of_mem _)
      · exact (inductionHypothesis (List.mem_cons_of_mem _ later) member).imp_left
          (List.mem_cons_of_mem _)

end DeltaStudy.Text
