import DeltaStudy.Campaign.Deltas
import DeltaStudy.Proofs.Numeral.Texts
import DeltaStudy.Proofs.Text.Pieces

/-!
# Lists of Δ/T values in parts

A list is malformed because of its first piece that is neither blank nor a float literal,
and otherwise it is the values of its pieces. So a list that is cut at a comma is read
part by part, and commas and blanks may be put in beside any comma and at both ends.
Values are read back from a list of their shortest texts, bit for bit, unless one of them
is not a number.
-/

namespace DeltaStudy.Campaign

open Numeral

variable {filler : String}

/-! ## Pieces -/

/-- The pieces between the commas of a text, without the blanks around them. -/
def trimmedPieces (text : String) : List String :=
  (Text.splitAt (· == ',') text.toList).map fun piece => String.ofList (Text.trimmed piece)

/-- Whether a trimmed piece is neither blank nor a float literal. -/
def isMalformed (piece : String) : Bool :=
  piece != "" && (readFloat? piece).isNone

theorem deltaPieces_eq (text : String) :
    deltaPieces text = (trimmedPieces text).filter fun piece => piece != "" :=
  rfl

theorem trimmedPieces_append_comma (front back : String) :
    trimmedPieces (front ++ "," ++ back) = trimmedPieces front ++ trimmedPieces back := by
  have spelled : (front ++ "," ++ back).toList = front.toList ++ ',' :: back.toList := by simp
  rw [trimmedPieces, spelled, Text.splitAt_append_cons _ (by decide), List.map_append]
  rfl

/-- The first malformed piece has only blank pieces and float literals before it. -/
theorem find?_isMalformed_iff {pieces : List String} {piece : String} :
    pieces.find? isMalformed = some piece ↔
      ∃ before after, pieces = before ++ piece :: after
        ∧ (∀ other ∈ before, other = "" ∨ (readFloat? other).isSome = true)
        ∧ piece ≠ "" ∧ readFloat? piece = none := by
  have wellFormed (other : String) :
      (!isMalformed other) = true ↔ other = "" ∨ (readFloat? other).isSome = true := by
    simp [isMalformed, or_iff_not_imp_left, Option.isSome_iff_ne_none]
  have malformed : isMalformed piece = true ↔ piece ≠ "" ∧ readFloat? piece = none := by
    simp [isMalformed]
  simp only [List.find?_eq_some_iff_append, wellFormed, malformed]
  constructor
  · rintro ⟨⟨nonblank, unread⟩, before, after, spelled, others⟩
    exact ⟨before, after, spelled, others, nonblank, unread⟩
  · rintro ⟨before, after, spelled, others, nonblank, unread⟩
    exact ⟨⟨nonblank, unread⟩, before, after, spelled, others⟩

/-- Pieces are read up to the first that is malformed, and blank ones count for nothing. -/
theorem readPieces_filter (pieces : List String) :
    readPieces (pieces.filter fun piece => piece != "") =
      match pieces.find? isMalformed with
      | some piece => .error (.malformedDelta piece)
      | none => .ok (pieces.filterMap readFloat?) := by
  induction pieces with
  | nil => rfl
  | cons piece rest inductionHypothesis =>
    by_cases blank : piece = ""
    · have unread : readFloat? "" = none := by decide
      simp [blank, isMalformed, unread, inductionHypothesis]
    · cases read : readFloat? piece with
      | none => simp [blank, isMalformed, read, readPieces]
      | some delta =>
        have kept : (piece :: rest).filter (fun piece => piece != "")
            = piece :: rest.filter fun piece => piece != "" := by simp [blank]
        have wellFormed : isMalformed piece = false := by simp [isMalformed, read]
        rw [kept, readPieces, read, List.find?_cons_of_neg (by simp [wellFormed]),
          List.filterMap_cons_some read]
        simp only [inductionHypothesis]
        cases rest.find? isMalformed with
        | none => rfl
        | some later => rfl

/-- A list is malformed because of its first malformed piece, or is the values of its
pieces. -/
theorem readDeltas_eq (text : String) :
    readDeltas text =
      match (trimmedPieces text).find? isMalformed with
      | some piece => .error (.malformedDelta piece)
      | none => .ok ((trimmedPieces text).filterMap readFloat?) :=
  readPieces_filter (trimmedPieces text)

/-- A list is malformed exactly if it has a malformed piece. -/
theorem readDeltas_error_iff {text : String} {failure : Failure} :
    readDeltas text = .error failure ↔
      ∃ piece, (trimmedPieces text).find? isMalformed = some piece
        ∧ failure = .malformedDelta piece := by
  rw [readDeltas_eq]
  cases (trimmedPieces text).find? isMalformed with
  | none => simp
  | some piece => simp [eq_comm]

/-- A list that is cut at a comma is read part by part. -/
theorem readDeltas_append_comma (front back : String) :
    readDeltas (front ++ "," ++ back) =
      match readDeltas front with
      | .error failure => .error failure
      | .ok deltas =>
        match readDeltas back with
        | .error failure => .error failure
        | .ok deltas' => .ok (deltas ++ deltas') := by
  rw [readDeltas_eq, readDeltas_eq, readDeltas_eq, trimmedPieces_append_comma,
    List.find?_append, List.filterMap_append]
  cases (trimmedPieces front).find? isMalformed with
  | some piece => rfl
  | none =>
    cases (trimmedPieces back).find? isMalformed with
    | some piece => rfl
    | none => rfl

/-! ## Commas and blanks -/

/-- A text of commas and blanks. -/
def IsFiller (text : String) : Prop :=
  ∀ character ∈ text.toList, character = ',' ∨ Text.isBlank character = true

/-- The pieces of commas and blanks are blank. -/
theorem isBlank_of_mem_splitAt (isFiller : IsFiller filler) {piece : List Char}
    (isPiece : piece ∈ Text.splitAt (· == ',') filler.toList) :
    ∀ character ∈ piece, Text.isBlank character = true := by
  intro character member
  obtain ⟨inFiller, inside⟩ := Text.mem_of_mem_splitAt isPiece member
  exact (isFiller character inFiller).resolve_left (by simpa using inside)

/-- Nothing is left of blank pieces. -/
theorem map_trimmed_of_blank {pieces : List (List Char)}
    (all : ∀ piece ∈ pieces, ∀ character ∈ piece, Text.isBlank character = true) :
    (pieces.map fun piece => String.ofList (Text.trimmed piece))
      = List.replicate pieces.length "" := by
  rw [List.map_eq_replicate_iff]
  intro piece isPiece
  have padded := Text.trimmed_padded [] (all piece isPiece) (List.forall_mem_nil _)
  rw [List.append_nil, List.append_nil] at padded
  rw [padded]
  rfl

/-- Commas and blanks in front of a list are blank pieces in front of its pieces. -/
theorem trimmedPieces_filler_append (isFiller : IsFiller filler) (text : String) :
    ∃ count, trimmedPieces (filler ++ text) = List.replicate count "" ++ trimmedPieces text := by
  obtain ⟨pieces, last, split, joined⟩ := Text.exists_last_splitAt (· == ',') filler.toList
  obtain ⟨first, others, splitText⟩ :=
    List.exists_cons_of_ne_nil (Text.splitAt_ne_nil (· == ',') text.toList)
  have all (piece : List Char) (isPiece : piece ∈ pieces ++ [last]) :=
    isBlank_of_mem_splitAt isFiller (split ▸ isPiece)
  have met : Text.trimmed (last ++ first) = Text.trimmed first := by
    have padded := Text.trimmed_padded first (all last (by simp)) (List.forall_mem_nil _)
    rwa [List.append_nil] at padded
  refine ⟨pieces.length, ?_⟩
  rw [trimmedPieces, trimmedPieces, String.toList_append, joined _ _ _ splitText, splitText,
    List.map_append, List.map_cons, List.map_cons, met,
    map_trimmed_of_blank fun piece isPiece => all piece (List.mem_append_left _ isPiece)]

/-- Commas and blanks behind a list are blank pieces behind its pieces. -/
theorem trimmedPieces_append_filler (text : String) (isFiller : IsFiller filler) :
    ∃ count, trimmedPieces (text ++ filler) = trimmedPieces text ++ List.replicate count "" := by
  obtain ⟨pieces, last, split, joined⟩ := Text.exists_last_splitAt (· == ',') text.toList
  obtain ⟨first, others, splitFiller⟩ :=
    List.exists_cons_of_ne_nil (Text.splitAt_ne_nil (· == ',') filler.toList)
  have all (piece : List Char) (isPiece : piece ∈ first :: others) :=
    isBlank_of_mem_splitAt isFiller (splitFiller ▸ isPiece)
  have met : Text.trimmed (last ++ first) = Text.trimmed last := by
    have padded := Text.trimmed_padded last (List.forall_mem_nil _) (all first (by simp))
    rwa [List.nil_append] at padded
  refine ⟨others.length, ?_⟩
  rw [trimmedPieces, trimmedPieces, String.toList_append, joined _ _ _ splitFiller, split,
    List.map_append, List.map_append, List.map_cons, List.map_cons, List.map_nil, met,
    map_trimmed_of_blank fun piece isPiece => all piece (List.mem_cons_of_mem _ isPiece),
    List.append_assoc, List.singleton_append]

theorem readDeltas_filler_append (isFiller : IsFiller filler) (text : String) :
    readDeltas (filler ++ text) = readDeltas text := by
  obtain ⟨count, pieces⟩ := trimmedPieces_filler_append isFiller text
  rw [readDeltas, readDeltas, deltaPieces_eq, deltaPieces_eq, pieces]
  simp

theorem readDeltas_append_filler (text : String) (isFiller : IsFiller filler) :
    readDeltas (text ++ filler) = readDeltas text := by
  obtain ⟨count, pieces⟩ := trimmedPieces_append_filler text isFiller
  rw [readDeltas, readDeltas, deltaPieces_eq, deltaPieces_eq, pieces]
  simp

/-- Commas and blanks alone are the empty list. -/
theorem readDeltas_filler (isFiller : IsFiller filler) : readDeltas filler = .ok [] := by
  have alone := readDeltas_append_filler "" isFiller
  rw [String.empty_append] at alone
  rw [alone]
  decide

/-- A list is read part by part, so its first malformed piece decides whatever stands behind
it, and commas and blanks beside a comma or at an end do not matter. -/
theorem readDeltas_compositional (front back : String) :
    (readDeltas (front ++ "," ++ back) =
      match readDeltas front with
      | .error failure => .error failure
      | .ok deltas =>
        match readDeltas back with
        | .error failure => .error failure
        | .ok deltas' => .ok (deltas ++ deltas'))
    ∧ (∀ filler, IsFiller filler →
        readDeltas filler = .ok []
        ∧ readDeltas (filler ++ front) = readDeltas front
        ∧ readDeltas (front ++ filler) = readDeltas front
        ∧ ∀ filler', IsFiller filler' →
          readDeltas (front ++ filler ++ "," ++ filler' ++ back)
            = readDeltas (front ++ "," ++ back))
    ∧ ∀ failure, readDeltas front = .error failure ↔
        ∃ before piece after, trimmedPieces front = before ++ piece :: after
          ∧ (∀ other ∈ before, other = "" ∨ (readFloat? other).isSome = true)
          ∧ piece ≠ "" ∧ readFloat? piece = none
          ∧ failure = .malformedDelta piece
          ∧ failure.message = "Invalid Δ/T value '" ++ piece ++ "': invalid float literal" := by
  refine ⟨readDeltas_append_comma front back, fun filler isFiller => ?_, fun failure => ?_⟩
  · refine ⟨readDeltas_filler isFiller, readDeltas_filler_append isFiller front,
      readDeltas_append_filler front isFiller, fun filler' isFiller' => ?_⟩
    have cut : front ++ filler ++ "," ++ filler' ++ back
        = (front ++ filler) ++ "," ++ (filler' ++ back) := String.append_assoc
    rw [cut, readDeltas_append_comma, readDeltas_append_comma,
      readDeltas_append_filler front isFiller, readDeltas_filler_append isFiller' back]
  · rw [readDeltas_error_iff]
    constructor
    · rintro ⟨piece, found, rfl⟩
      obtain ⟨before, after, pieces, wellFormed, nonblank, unread⟩ :=
        find?_isMalformed_iff.mp found
      exact ⟨before, piece, after, pieces, wellFormed, nonblank, unread, rfl, rfl⟩
    · rintro ⟨before, piece, after, pieces, wellFormed, nonblank, unread, rfl, -⟩
      exact ⟨piece, find?_isMalformed_iff.mpr
        ⟨before, after, pieces, wellFormed, nonblank, unread⟩, rfl⟩

/-- Blank pieces beside the comma do not keep the malformed piece from being found. -/
theorem readDeltas_compositional_padded :
    IsFiller " ,," ∧ IsFiller "\t"
    ∧ readDeltas ("0.5" ++ " ,," ++ "," ++ "\t" ++ "abc,x") = .error (.malformedDelta "abc") := by
  have isFiller : IsFiller " ,," := by simp [IsFiller, Text.isBlank]
  have isFiller' : IsFiller "\t" := by simp [IsFiller, Text.isBlank]
  obtain ⟨-, fillers, -⟩ := readDeltas_compositional "0.5" "abc,x"
  obtain ⟨-, -, -, beside⟩ := fillers " ,," isFiller
  refine ⟨isFiller, isFiller', (beside "\t" isFiller').trans ?_⟩
  decide +kernel

/-! ## Written lists -/

/-- A value as it may stand in a list, with blanks around its shortest text. -/
structure Entry where
  value : Float
  front : String
  back : String
  number : value.isNaN = false
  frontBlank : ∀ character ∈ front.toList, Text.isBlank character = true
  backBlank : ∀ character ∈ back.toList, Text.isBlank character = true

namespace Entry

/-- How the value is written. -/
def text (entry : Entry) : String :=
  entry.front ++ shortest entry.value ++ entry.back

/-- The text of a value is a single piece. -/
theorem trimmedPieces_shortest (entry : Entry) :
    trimmedPieces (shortest entry.value) = [shortest entry.value] := by
  have plain := plain_shortest_of_size (size_ne_undefined entry.number)
  have clear : ∀ character ∈ (shortest entry.value).toList, (character == ',') = false := by
    intro character member
    have shown := Text.isPlain_iff.mp (plain.characters character member)
    rw [beq_eq_false_iff_ne]
    rintro rfl
    exact shown.2.2.1 rfl
  rw [trimmedPieces, Text.splitAt_of_clear clear, List.map_singleton, plain.trimmed_eq,
    String.ofList_toList]

/-- A value that stands alone is read back. -/
theorem readDeltas_text (entry : Entry) : readDeltas entry.text = .ok [entry.value] := by
  have read := readFloat?_shortest (size_ne_undefined entry.number)
  rw [text, readDeltas_append_filler _ fun character member => .inr (entry.backBlank _ member),
    readDeltas_filler_append fun character member => .inr (entry.frontBlank _ member),
    readDeltas_eq, trimmedPieces_shortest]
  simp [isMalformed, read]

end Entry

/-- Values that are written with commas between them are read back, and the text of no
finite value has an exponent. -/
theorem readDeltas_joined (entries : List Entry) :
    readDeltas (Text.joined "," (entries.map Entry.text)) = .ok (entries.map Entry.value)
    ∧ ∀ value : Float, value.isFinite = true →
        'e' ∉ (shortest value).toList ∧ 'E' ∉ (shortest value).toList := by
  refine ⟨?_, fun _ => exponent_notMem_shortest⟩
  induction entries with
  | nil => decide
  | cons entry rest inductionHypothesis =>
    cases rest with
    | nil => exact entry.readDeltas_text
    | cons next others =>
      rw [Text.joined] at inductionHypothesis ⊢
      rw [List.map_cons, List.map_cons, String.intercalate_cons_cons, readDeltas_append_comma,
        entry.readDeltas_text, ← List.map_cons, inductionHypothesis]
      rfl

/-- The zero keeps its sign, and an infinity is a value like any other. -/
theorem readDeltas_joined_signed :
    (-0.0 : Float).isNaN = false ∧ (-1.0 / 0.0 : Float).isNaN = false
    ∧ readDeltas "-0 ,\u3000-inf" = .ok [-0.0, -1.0 / 0.0] := by
  have zero : (-0.0 : Float).isNaN = false := by decide +kernel
  have infinite : (-1.0 / 0.0 : Float).isNaN = false := by decide +kernel
  have read := (readDeltas_joined
    [⟨-0.0, "", " ", zero, by simp, by simp [Text.isBlank]⟩,
      ⟨-1.0 / 0.0, "\u3000", "", infinite, by simp [Text.isBlank], by simp⟩]).1
  have written : Text.joined "," ["" ++ shortest (-0.0) ++ " ",
      "\u3000" ++ shortest (-1.0 / 0.0) ++ ""] = "-0 ,\u3000-inf" := by
    decide +kernel
  refine ⟨zero, infinite, ?_⟩
  rw [← written]
  exact read

end DeltaStudy.Campaign
