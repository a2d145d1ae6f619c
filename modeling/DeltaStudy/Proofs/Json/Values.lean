import Mathlib.Data.List.DropRight
import DeltaStudy.Proofs.Json.Strings

/-!
# Values are read as they are spelled

The reader gives back the value that a text spells, and leaves what stands behind it. Behind a
number that must be something that cannot continue it; between the parts of a value it always is.
The bound on the work that is left is never met: twice the length of the text is enough.

What the reader does with texts that spell no value is not said here.
-/

namespace DeltaStudy.Json

variable {text digits whole fraction exponent rest : List Char} {value : Value}
  {values : List Value} {members : List (List StringUnit × Value)} {fuel : Nat}

/-! ## Blanks -/

theorem isSpace_iff {character : Char} :
    isSpace character = true ↔ character ∈ blanks := by
  simp [isSpace, blanks, or_assoc]

theorem Spacing.skipSpace_append (spacing : Spacing text) (rest : List Char) :
    skipSpace (text ++ rest) = skipSpace rest :=
  List.dropWhile_append_of_pos fun character member => isSpace_iff.mpr (spacing character member)

theorem skipSpace_skipSpace (text : List Char) : skipSpace (skipSpace text) = skipSpace text :=
  List.dropWhile_idempotent isSpace text

theorem skipSpace_cons {first : Char} (visible : isSpace first = false) (rest : List Char) :
    skipSpace (first :: rest) = first :: rest :=
  List.dropWhile_cons_of_neg (by simp [visible])

/-- Blanks in front of a value make no difference. -/
theorem readValue?_congr {other : List Char} (same : skipSpace text = skipSpace other) :
    readValue? fuel text = readValue? fuel other := by
  cases fuel with
  | zero => rw [readValue?, readValue?]
  | succ fuel => rw [readValue?, readValue?, same]

theorem readItems?_skipSpace (text : List Char) :
    readItems? fuel (skipSpace text) = readItems? fuel text := by
  cases fuel with
  | zero => rw [readItems?, readItems?]
  | succ fuel => rw [readItems?, readItems?, readValue?_congr (skipSpace_skipSpace text)]

theorem readMembers?_skipSpace (text : List Char) :
    readMembers? fuel (skipSpace text) = readMembers? fuel text := by
  cases fuel with
  | zero => rw [readMembers?, readMembers?]
  | succ fuel => rw [readMembers?, readMembers?, skipSpace_skipSpace]

/-! ## Numbers -/

/-- The marks that may stand behind a value. -/
def marks : List Char :=
  [',', ']', '\x7d']

/-- What may stand behind a value: nothing that could continue a number. -/
def Closes (rest : List Char) : Prop :=
  ∀ next ∈ rest.head?, next ∈ blanks ++ marks

/-- What may stand behind digits. -/
def EndsDigits (rest : List Char) : Prop :=
  ∀ next ∈ rest.head?, Numeral.isDigit next = false

/-- Blanks and marks are no digits and begin no exponent. -/
theorem apart_of_mem_blanks_append_marks {next : Char} (listed : next ∈ blanks ++ marks) :
    Numeral.isDigit next = false ∧ ¬ (next == 'e' || next == 'E') = true := by
  have table : (blanks ++ marks).all (fun next =>
      !Numeral.isDigit next && !(next == 'e' || next == 'E')) = true := by
    decide
  simpa only [Bool.and_eq_true, Bool.not_eq_true', Bool.not_eq_true]
    using List.all_eq_true.mp table next listed

theorem Closes.endsDigits (closes : Closes rest) : EndsDigits rest :=
  fun next first => (apart_of_mem_blanks_append_marks (closes next first)).1

theorem Spacing.closes_append (spacing : Spacing text) (closes : Closes rest) :
    Closes (text ++ rest) := by
  cases text with
  | nil => exact closes
  | cons blank others =>
    have isBlank := List.mem_append_left marks (spacing blank List.mem_cons_self)
    exact fun next first => Option.some.inj first ▸ isBlank

theorem splitDigits_append (all : ∀ digit ∈ digits, Numeral.isDigit digit = true)
    (ends : EndsDigits rest) : splitDigits (digits ++ rest) = (digits, rest) := by
  have nothing : rest.takeWhile Numeral.isDigit = [] ∧ rest.dropWhile Numeral.isDigit = rest := by
    cases rest with
    | nil => exact ⟨rfl, rfl⟩
    | cons next others =>
      have other := ends next rfl
      exact ⟨List.takeWhile_cons_of_neg (by simp [other]),
        List.dropWhile_cons_of_neg (by simp [other])⟩
  rw [splitDigits, List.takeWhile_append_of_pos all, List.dropWhile_append_of_pos all, nothing.1,
    nothing.2, List.append_nil]

theorem Digits.isEmpty_eq (isDigits : Digits digits) : digits.isEmpty = false :=
  List.isEmpty_eq_false_iff.mpr isDigits.1

/-- Digits do not begin with a sign. -/
theorem Digits.ne_sign (isDigits : Digits digits) {sign : Char}
    (noDigit : Numeral.isDigit sign = false) (others : List Char) :
    digits ++ rest ≠ sign :: others := by
  obtain ⟨first, behind, rfl⟩ := List.exists_cons_of_ne_nil isDigits.1
  intro same
  have digit := isDigits.2 first List.mem_cons_self
  rw [(List.cons.inj same).1, noDigit] at digit
  cases digit

/-- The exponent of a number is read up to what stands behind the number. -/
theorem ExponentPart.readExponent? (isExponent : ExponentPart exponent) (closes : Closes rest) :
    Json.readExponent? (exponent ++ rest) = some (exponent, rest) := by
  rcases isExponent with rfl | ⟨mark, sign, digits, isMark, isSign, isDigits, rfl⟩
  · cases rest with
    | nil => rfl
    | cons next others =>
      rw [List.nil_append]
      unfold Json.readExponent?
      exact if_neg (apart_of_mem_blanks_append_marks (closes next rfl)).2
  · have marked : (mark == 'e' || mark == 'E') = true := by simpa using isMark
    have split := splitDigits_append isDigits.2 closes.endsDigits
    simp only [List.mem_cons, List.not_mem_nil, or_false] at isSign
    rcases isSign with rfl | rfl | rfl
    · show Json.readExponent? (mark :: (digits ++ rest)) = some (mark :: digits, rest)
      rw [Json.readExponent?, if_pos marked, split]
      · simp only [isDigits.isEmpty_eq, Bool.false_eq_true, if_false,
          List.singleton_append]
      · exact isDigits.ne_sign (by decide)
      · exact isDigits.ne_sign (by decide)
    · show Json.readExponent? (mark :: '+' :: (digits ++ rest)) = some (mark :: '+' :: digits, rest)
      unfold Json.readExponent?
      refine (if_pos marked).trans ?_
      simp only [split, isDigits.isEmpty_eq, Bool.false_eq_true, if_false, List.cons_append,
        List.nil_append]
    · show Json.readExponent? (mark :: '-' :: (digits ++ rest)) = some (mark :: '-' :: digits, rest)
      unfold Json.readExponent?
      refine (if_pos marked).trans ?_
      simp only [split, isDigits.isEmpty_eq, Bool.false_eq_true, if_false, List.cons_append,
        List.nil_append]

/-- What may stand behind a whole number: not a digit and not a point. -/
theorem ExponentPart.endsDigits (isExponent : ExponentPart exponent) (closes : Closes rest) :
    EndsDigits (exponent ++ rest) ∧ (exponent ++ rest).head? ≠ some '.' := by
  rcases isExponent with rfl | ⟨mark, sign, digits, isMark, -, -, rfl⟩
  · refine ⟨closes.endsDigits, fun point => ?_⟩
    exact absurd (closes '.' point) (by decide)
  · rcases isMark with rfl | rfl
    · exact ⟨fun next first => Option.some.inj first ▸ by decide, by simp⟩
    · exact ⟨fun next first => Option.some.inj first ▸ by decide, by simp⟩

theorem FractionPart.readFraction? (isFraction : FractionPart fraction) (ends : EndsDigits rest)
    (pointless : rest.head? ≠ some '.') :
    Json.readFraction? (fraction ++ rest) = some (fraction, rest)
      ∧ EndsDigits (fraction ++ rest) := by
  rcases isFraction with rfl | ⟨digits, isDigits, rfl⟩
  · refine ⟨?_, ends⟩
    rw [List.nil_append, Json.readFraction?]
    rintro others rfl
    exact pointless rfl
  · refine ⟨?_, fun next first => Option.some.inj first ▸ by decide⟩
    rw [List.cons_append, Json.readFraction?, splitDigits_append isDigits.2 ends]
    simp only [isDigits.isEmpty_eq, Bool.false_eq_true, if_false]

theorem WholePart.readUnsigned? (isWhole : WholePart whole) (isFraction : FractionPart fraction)
    (isExponent : ExponentPart exponent) (closes : Closes rest) :
    Json.readUnsigned? (whole ++ fraction ++ exponent ++ rest)
      = some (whole ++ fraction ++ exponent, rest) := by
  obtain ⟨isDigits, zeroAlone⟩ := isWhole
  obtain ⟨ends, pointless⟩ := isExponent.endsDigits closes
  obtain ⟨read, ends⟩ := isFraction.readFraction? ends pointless
  have usual : (whole.isEmpty || (whole.head? == some '0' && whole.length != 1)) = false := by
    rw [isDigits.isEmpty_eq, Bool.false_or, Bool.and_eq_false_iff]
    by_cases zero : whole.head? = some '0'
    · exact .inr (by simp [zeroAlone zero])
    · exact .inl (beq_eq_false_iff_ne.mpr zero)
  rw [List.append_assoc, List.append_assoc, Json.readUnsigned?, splitDigits_append isDigits.2 ends]
  simp only [usual, Bool.false_eq_true, if_false, read, isExponent.readExponent? closes,
    Option.bind_eq_bind, Option.bind_some, Option.pure_def]

/-- A number begins with a minus sign or a digit. -/
theorem IsNumber.exists_cons (isNumber : IsNumber text) :
    ∃ first others, text = first :: others ∧ (first = '-' ∨ Numeral.isDigit first = true) := by
  obtain ⟨signed, isWhole, -, -⟩ := isNumber
  obtain ⟨first, others, rfl⟩ := List.exists_cons_of_ne_nil isWhole.1.1
  simp only [List.mem_cons, List.not_mem_nil, or_false] at signed
  rcases signed with rfl | rfl
  · exact ⟨first, _, rfl, .inr (isWhole.1.2 first List.mem_cons_self)⟩
  · exact ⟨'-', _, rfl, .inl rfl⟩

/-- A number is read in its spelling. -/
theorem IsNumber.readNumber? (isNumber : IsNumber text) (closes : Closes rest) :
    Json.readNumber? (text ++ rest) = some (text, rest) := by
  cases isNumber with
  | @mk sign whole fraction exponent signed isWhole isFraction isExponent =>
    have read := isWhole.readUnsigned? isFraction isExponent closes
    simp only [List.mem_cons, List.not_mem_nil, or_false] at signed
    rcases signed with rfl | rfl
    · rw [List.nil_append, Json.readNumber?, read]
      intro others
      rw [List.append_assoc, List.append_assoc]
      exact isWhole.1.ne_sign (by decide) others
    · rw [List.singleton_append, List.cons_append, Json.readNumber?, read]
      rfl

/-! ## Values -/

/-- What reading gives for a text that spells a part, whatever stands behind it. -/
def Part.Read : Part → List Char → Prop
  | .value value, text => ∀ fuel rest, 2 * text.length ≤ fuel → Closes rest →
    readValue? fuel (text ++ rest) = some (value, rest)
  | .items values, text => ∀ fuel rest, 2 * text.length + 2 ≤ fuel →
    readItems? fuel (text ++ ']' :: rest) = some (values, rest)
  | .members members, text => ∀ fuel rest, 2 * text.length + 2 ≤ fuel →
    readMembers? fuel (text ++ '\x7d' :: rest) = some (members, rest)

/-- A value has a character, so the bound is not used up in front of it. -/
theorem Part.Read.of_succ (visible : text ≠ [])
    (read : ∀ fuel rest, 2 * text.length ≤ fuel + 1 → Closes rest →
      readValue? (fuel + 1) (text ++ rest) = some (value, rest)) :
    Part.Read (.value value) text := by
  intro fuel rest bound closes
  have := List.length_pos_iff.mpr visible
  obtain ⟨fuel, rfl⟩ := Nat.exists_eq_add_one_of_ne_zero (by omega : fuel ≠ 0)
  exact read fuel rest bound closes

/-- What a value begins with is no blank and does not close a list. -/
theorem Spells.exists_cons (spells : Spells (.value value) text) :
    ∃ first others, text = first :: others ∧ isSpace first = false ∧ first ≠ ']' := by
  cases spells with
  | null => exact ⟨'n', _, rfl, by decide, by decide⟩
  | affirmed => exact ⟨'t', _, rfl, by decide, by decide⟩
  | denied => exact ⟨'f', _, rfl, by decide, by decide⟩
  | number written =>
    obtain ⟨first, others, rfl, sign | digit⟩ := written.exists_cons
    · exact ⟨first, others, rfl, sign ▸ by decide, sign ▸ by decide⟩
    · refine ⟨first, others, rfl, Bool.eq_false_iff.mpr fun space => ?_, ?_⟩
      · have listed := List.mem_append_left marks (isSpace_iff.mp space)
        rw [(apart_of_mem_blanks_append_marks listed).1] at digit
        cases digit
      · rintro rfl
        cases digit
  | string written => exact ⟨'"', _, rfl, by decide, by decide⟩
  | emptyArray spacing => exact ⟨'[', _, rfl, by decide, by decide⟩
  | array items => exact ⟨'[', _, rfl, by decide, by decide⟩
  | emptyObject spacing => exact ⟨'\x7b', _, rfl, by decide, by decide⟩
  | object written => exact ⟨'\x7b', _, rfl, by decide, by decide⟩

/-- What begins like a number is read as one. -/
theorem readValue?_of_begins {first : Char} (begins : first = '-' ∨ Numeral.isDigit first = true)
    (others : List Char) :
    readValue? (fuel + 1) (first :: others)
      = (readNumber? (first :: others)).map fun (spelling, rest) => (.number spelling, rest) := by
  have apart : ∀ other ∈ ['n', 't', 'f', '"', '[', '\x7b'] ++ blanks, first ≠ other := by
    have table : (['n', 't', 'f', '"', '[', '\x7b'] ++ blanks).all (fun other =>
        other != '-' && !Numeral.isDigit other) = true := by
      decide
    rintro other member rfl
    have neither := List.all_eq_true.mp table first member
    rcases begins with rfl | digit
    · simp at neither
    · simp [digit] at neither
  have visible : isSpace first = false :=
    Bool.eq_false_iff.mpr fun space =>
      apart first (List.mem_append_right _ (isSpace_iff.mp space)) rfl
  rw [readValue?, skipSpace_cons visible]
  split
  case h_7 => rfl
  all_goals
    rename_i same
    exact absurd (List.cons.inj same).1 (apart _ (by decide))

theorem SpellsUnits.readValue? {units : List StringUnit} (spelled : SpellsUnits units text)
    (rest : List Char) :
    Json.readValue? (fuel + 1) ('"' :: text ++ ['"'] ++ rest) = some (.string units, rest) := by
  have bound : text.length < (text ++ '"' :: rest).length + 1 := by
    rw [List.length_append]
    omega
  have read := spelled.readUnits? bound rest
  have spelling : '"' :: text ++ ['"'] ++ rest = '"' :: (text ++ '"' :: rest) := by simp
  rw [spelling, Json.readValue?, skipSpace_cons (by decide)]
  show (Json.readUnits? _ _).map _ = _
  rw [read]
  rfl

theorem IsNumber.readValue? (isNumber : IsNumber text) (closes : Closes rest) :
    Json.readValue? (fuel + 1) (text ++ rest) = some (.number text, rest) := by
  have read := isNumber.readNumber? closes
  obtain ⟨first, others, rfl, begins⟩ := isNumber.exists_cons
  rw [List.cons_append] at read ⊢
  rw [readValue?_of_begins begins, read, Option.map_some]

/-! ## Lists and objects -/

theorem readValue?_emptyArray (spacing : Spacing text) (rest : List Char) :
    readValue? (fuel + 1) ('[' :: text ++ [']'] ++ rest) = some (.array [], rest) := by
  have closing : skipSpace (text ++ ']' :: rest) = ']' :: rest := by
    rw [spacing.skipSpace_append, skipSpace_cons (by decide)]
  rw [List.append_assoc, List.singleton_append, List.cons_append, readValue?,
    skipSpace_cons (by decide)]
  simp only [closing]

theorem readValue?_emptyObject (spacing : Spacing text) (rest : List Char) :
    readValue? (fuel + 1) ('\x7b' :: text ++ ['\x7d'] ++ rest) = some (.object [], rest) := by
  have closing : skipSpace (text ++ '\x7d' :: rest) = '\x7d' :: rest := by
    rw [spacing.skipSpace_append, skipSpace_cons (by decide)]
  rw [List.append_assoc, List.singleton_append, List.cons_append, readValue?,
    skipSpace_cons (by decide)]
  simp only [closing]

/-- A list that does not close at once has items. -/
theorem readValue?_bracket {first : Char} {others : List Char}
    (begins : skipSpace text = first :: others) (opens : first ≠ ']') :
    readValue? (fuel + 1) ('[' :: text)
      = (readItems? fuel text).map fun (items, rest) => (.array items, rest) := by
  rw [readValue?, skipSpace_cons (by decide), ← readItems?_skipSpace text]
  simp only [begins]
  split
  case h_1 same => exact absurd (List.cons.inj same).1 opens
  case h_2 => rfl

/-- An object that does not close at once has members. -/
theorem readValue?_brace {first : Char} {others : List Char}
    (begins : skipSpace text = first :: others) (opens : first ≠ '\x7d') :
    readValue? (fuel + 1) ('\x7b' :: text)
      = (readMembers? fuel text).map fun (members, rest) => (.object members, rest) := by
  rw [readValue?, skipSpace_cons (by decide), ← readMembers?_skipSpace text]
  simp only [begins]
  split
  case h_1 same => exact absurd (List.cons.inj same).1 opens
  case h_2 => rfl

/-- A value with blanks around it is read up to the mark behind it. -/
theorem Part.Read.exists_padded {item : List Char} (read : Part.Read (.value value) text)
    (padded : Padded text item) (mark : Char) (isMark : mark ∈ marks)
    (bound : 2 * item.length ≤ fuel) (rest : List Char) :
    ∃ behind, readValue? fuel (item ++ mark :: rest) = some (value, behind)
      ∧ skipSpace behind = mark :: rest := by
  cases padded with
  | @mk front back before behind =>
    have closes : Closes (mark :: rest) :=
      fun next first => Option.some.inj first ▸ List.mem_append_right blanks isMark
    have visible : isSpace mark = false := by
      have table : marks.all (fun mark => !isSpace mark) = true := by decide
      simpa only [Bool.not_eq_true'] using List.all_eq_true.mp table mark isMark
    simp only [List.length_append] at bound
    refine ⟨back ++ mark :: rest, ?_, ?_⟩
    · rw [List.append_assoc, List.append_assoc,
        readValue?_congr (before.skipSpace_append (text ++ (back ++ mark :: rest)))]
      exact read fuel _ (by omega) (behind.closes_append closes)
    · rw [behind.skipSpace_append, skipSpace_cons visible]

/-- Blanks around a value do not change that it closes no list. -/
theorem Padded.exists_skipSpace {item : List Char} (padded : Padded text item)
    (spells : Spells (.value value) text) (rest : List Char) :
    ∃ first others, skipSpace (item ++ rest) = first :: others ∧ first ≠ ']' := by
  obtain ⟨first, others, rfl, visible, opens⟩ := spells.exists_cons
  cases padded with
  | @mk front back before behind =>
    refine ⟨first, others ++ (back ++ rest), ?_, opens⟩
    rw [List.append_assoc, List.append_assoc, before.skipSpace_append, List.cons_append,
      skipSpace_cons visible]

theorem Spells.exists_skipSpace_items (spells : Spells (.items values) text) (rest : List Char) :
    ∃ first others, skipSpace (text ++ rest) = first :: others ∧ first ≠ ']' := by
  cases spells with
  | lastItem spelled padded => exact padded.exists_skipSpace spelled rest
  | item spelled padded others =>
    rw [List.append_assoc]
    exact padded.exists_skipSpace spelled _

/-- A name with blanks around it is read up to the colon behind it. -/
theorem Padded.exists_readUnits? {units : List StringUnit} {key name : List Char}
    (padded : Padded ('"' :: key ++ ['"']) name) (named : SpellsUnits units key)
    (rest : List Char) :
    ∃ others behind, skipSpace (name ++ ':' :: rest) = '"' :: others
      ∧ readUnits? (others.length + 1) others = some (units, behind)
      ∧ skipSpace behind = ':' :: rest := by
  cases padded with
  | @mk front back before behind =>
    refine ⟨key ++ '"' :: (back ++ ':' :: rest), back ++ ':' :: rest, ?_,
      named.readUnits? ?_ _, ?_⟩
    · rw [List.append_assoc, List.append_assoc, before.skipSpace_append]
      simp only [List.cons_append, List.append_assoc, List.nil_append]
      exact skipSpace_cons (by decide) _
    · rw [List.length_append]
      omega
    · rw [behind.skipSpace_append, skipSpace_cons (by decide)]

/-- The last member is followed by the brace that closes the object. -/
theorem readMembers?_last {units : List StringUnit} {key name item behind : List Char}
    (padded : Padded ('"' :: key ++ ['"']) name) (named : SpellsUnits units key)
    (read : readValue? fuel item = some (value, behind))
    (closing : skipSpace behind = '\x7d' :: rest) :
    readMembers? (fuel + 1) (name ++ ':' :: item) = some ([(units, value)], rest) := by
  obtain ⟨others, behindName, begins, readName, colon⟩ := padded.exists_readUnits? named item
  rw [readMembers?, begins]
  simp only [readName, colon, read, closing, Option.bind_eq_bind, Option.bind_some,
    Option.pure_def]

/-- Any other member is followed by a comma and the members behind it. -/
theorem readMembers?_comma {units : List StringUnit} {key name item behind after : List Char}
    (padded : Padded ('"' :: key ++ ['"']) name) (named : SpellsUnits units key)
    (read : readValue? fuel item = some (value, behind)) (comma : skipSpace behind = ',' :: after)
    (others : readMembers? fuel after = some (members, rest)) :
    readMembers? (fuel + 1) (name ++ ':' :: item) = some ((units, value) :: members, rest) := by
  obtain ⟨written, behindName, begins, readName, colon⟩ := padded.exists_readUnits? named item
  rw [readMembers?, begins]
  simp only [readName, colon, read, comma, others, Option.bind_eq_bind, Option.bind_some,
    Option.pure_def]

theorem Spells.exists_skipSpace_members (spells : Spells (.members members) text)
    (rest : List Char) : ∃ others, skipSpace (text ++ rest) = '"' :: others := by
  cases spells with
  | lastMember named nameSpaced spelled padded =>
    rw [List.append_assoc]
    obtain ⟨others, -, begins, -⟩ := nameSpaced.exists_readUnits? named _
    exact ⟨others, begins⟩
  | member named nameSpaced spelled padded others =>
    rw [List.append_assoc]
    obtain ⟨others, -, begins, -⟩ := nameSpaced.exists_readUnits? named _
    exact ⟨others, begins⟩

/-! ## The whole grammar -/

/-- Every part is read as it is spelled. -/
theorem Spells.read {part : Part} (spells : Spells part text) : part.Read text := by
  -- Twice the length pays for a value and for a list around it at every character, so enough is
  -- left of the bound for each part of a part.
  induction spells with
  | null => exact .of_succ (by simp) fun fuel rest bound closes => rfl
  | affirmed => exact .of_succ (by simp) fun fuel rest bound closes => rfl
  | denied => exact .of_succ (by simp) fun fuel rest bound closes => rfl
  | number written =>
    obtain ⟨first, others, spelling, -⟩ := written.exists_cons
    exact .of_succ (by simp [spelling]) fun fuel rest bound closes => written.readValue? closes
  | string written =>
    exact .of_succ (by simp) fun fuel rest bound closes => written.readValue? rest
  | emptyArray spacing =>
    exact .of_succ (by simp) fun fuel rest bound closes => readValue?_emptyArray spacing rest
  | emptyObject spacing =>
    exact .of_succ (by simp) fun fuel rest bound closes => readValue?_emptyObject spacing rest
  | array items read =>
    refine .of_succ (by simp) fun fuel rest bound closes => ?_
    simp only [List.length_append, List.length_cons, List.length_nil] at bound
    obtain ⟨first, others, begins, opens⟩ := items.exists_skipSpace_items (']' :: rest)
    rw [List.append_assoc, List.singleton_append, List.cons_append,
      readValue?_bracket begins opens, read fuel rest (by omega), Option.map_some]
  | object written read =>
    refine .of_succ (by simp) fun fuel rest bound closes => ?_
    simp only [List.length_append, List.length_cons, List.length_nil] at bound
    obtain ⟨others, begins⟩ := written.exists_skipSpace_members ('\x7d' :: rest)
    rw [List.append_assoc, List.singleton_append, List.cons_append,
      readValue?_brace begins (by decide), read fuel rest (by omega), Option.map_some]
  | lastItem spelled padded read =>
    intro fuel rest bound
    obtain ⟨fuel, rfl⟩ := Nat.exists_eq_add_one_of_ne_zero (by omega : fuel ≠ 0)
    obtain ⟨behind, read, closing⟩ :=
      read.exists_padded padded ']' (by decide) (by omega : _ ≤ fuel) rest
    rw [readItems?, read]
    simp only [closing, Option.bind_eq_bind, Option.bind_some, Option.pure_def]
  | @item value values text item others spelled padded spellsOthers read readOthers =>
    intro fuel rest bound
    simp only [List.length_append, List.length_cons] at bound
    obtain ⟨fuel, rfl⟩ := Nat.exists_eq_add_one_of_ne_zero (by omega : fuel ≠ 0)
    obtain ⟨behind, read, comma⟩ :=
      read.exists_padded padded ',' (by decide) (by omega : _ ≤ fuel)
        (others ++ ']' :: rest)
    rw [List.append_assoc, List.cons_append, readItems?, read]
    simp only [comma, readOthers fuel rest (by omega), Option.bind_eq_bind, Option.bind_some,
      Option.pure_def]
  | lastMember named nameSpaced spelled padded read =>
    intro fuel rest bound
    simp only [List.length_append, List.length_cons] at bound
    obtain ⟨fuel, rfl⟩ := Nat.exists_eq_add_one_of_ne_zero (by omega : fuel ≠ 0)
    obtain ⟨behind, read, closing⟩ :=
      read.exists_padded padded '\x7d' (by decide) (by omega : _ ≤ fuel) rest
    rw [List.append_assoc, List.cons_append]
    exact readMembers?_last nameSpaced named read closing
  | @member units value members key name text item others named nameSpaced spelled padded
      spellsOthers read readOthers =>
    intro fuel rest bound
    simp only [List.length_append, List.length_cons] at bound
    obtain ⟨fuel, rfl⟩ := Nat.exists_eq_add_one_of_ne_zero (by omega : fuel ≠ 0)
    obtain ⟨behind, read, comma⟩ :=
      read.exists_padded padded ',' (by decide) (by omega : _ ≤ fuel)
        (others ++ '\x7d' :: rest)
    rw [List.append_assoc, List.cons_append, List.append_assoc, List.cons_append]
    exact readMembers?_comma nameSpaced named read comma (readOthers fuel rest (by omega))

/-- A text that spells a value is read as this value. -/
theorem Document.read? {text : String} (document : Document value text) :
    Json.read? text = some value := by
  obtain ⟨part, spells, padded⟩ := document
  rw [Json.read?]
  generalize text.toList = characters at padded ⊢
  cases padded with
  | @mk front back before behind =>
    have read : readValue? (2 * (front ++ part ++ back).length + 2) (front ++ part ++ back)
        = some (value, back) := by
      rw [List.append_assoc, readValue?_congr (before.skipSpace_append (part ++ back))]
      refine spells.read _ back (by simp only [List.length_append]; omega) ?_
      rw [← List.append_nil back]
      exact behind.closes_append fun next first => by cases first
    have nothing : skipSpace back = [] := by
      have skipped := behind.skipSpace_append []
      rwa [List.append_nil] at skipped
    rw [read]
    simp only [nothing, List.isEmpty_nil, if_true]

end DeltaStudy.Json
