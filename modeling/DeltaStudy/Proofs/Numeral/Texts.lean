import DeltaStudy.Numeral.Fixed
import DeltaStudy.Proofs.Numeral.Shortest
import DeltaStudy.Proofs.Text.Lines

/-!
# Texts of numbers

A word is read back from its decimal digits, as a double is from its shortest text. The
texts of words and of numbers are plain, and those of finite doubles have no exponent. No
text of a double, whichever it is, has a line feed.
-/

namespace DeltaStudy.Numeral

open Text (Plain Unbroken isPlain)

theorem isPlain_of_isDigit {character : Char} (digit : isDigit character = true) :
    isPlain character = true := by
  have bounds : 48 ≤ character.toNat ∧ character.toNat ≤ 57 :=
    Char.isDigit_iff_toNat.mp (isDigit_eq character ▸ digit)
  rw [Text.isPlain_iff]
  omega

/-! ## Words -/

/-- A text of digits, behind a plus sign or not, and the number that it spells, which is
below a limit. -/
def IsNumeral (limit : Nat) (text : String) (value : Nat) : Prop :=
  ∃ digits : List Char, (text.toList = digits ∨ text.toList = '+' :: digits)
    ∧ digits ≠ [] ∧ (∀ digit ∈ digits, isDigit digit = true)
    ∧ Nat.ofDigitChars 10 digits 0 = value ∧ value < limit

theorem readNat?_eq_some_iff {limit value : Nat} {text : String} :
    readNat? limit text = some value ↔ IsNumeral limit text value := by
  constructor
  · intro read
    rw [readNat?] at read
    obtain ⟨digits, signed, read⟩ : ∃ digits,
        (text.toList = digits ∨ text.toList = '+' :: digits)
        ∧ (if digits.isEmpty || !digits.all isDigit then none
          else if valueOfDigits digits < limit then some (valueOfDigits digits) else none)
            = some value := by
      split at read
      case h_1 rest spelled => exact ⟨rest, .inr spelled, read⟩
      case h_2 => exact ⟨_, .inl rfl, read⟩
    split at read
    case isTrue => cases read
    case isFalse written =>
      simp only [Bool.or_eq_true, List.isEmpty_iff, Bool.not_eq_true', not_or,
        Bool.not_eq_false, List.all_eq_true] at written
      split at read
      case isTrue below =>
        cases read
        exact ⟨digits, signed, written.1, written.2, (valueOfDigits_eq written.2).symm, below⟩
      case isFalse => cases read
  · rintro ⟨digits, signed, nonempty, all, rfl, below⟩
    have written : (digits.isEmpty || !digits.all isDigit) = false := by
      simpa [nonempty] using all
    rw [← valueOfDigits_eq all] at below ⊢
    rw [readNat?]
    split
    case h_1 rest spelled =>
      rcases signed with same | same
      · have digit : isDigit '+' = true := all '+' (by simp [← same, spelled])
        cases digit
      · obtain rfl : digits = rest := (List.cons.inj (same.symm.trans spelled)).2
        simp only [written, Bool.false_eq_true, if_false, if_pos below]
    case h_2 unsigned =>
      obtain same | same := signed
      · rw [same]
        simp only [written, Bool.false_eq_true, if_false, if_pos below]
      · exact absurd same (unsigned digits)

theorem IsNumeral.lt_limit {limit value : Nat} {text : String}
    (isNumeral : IsNumeral limit text value) : value < limit := by
  obtain ⟨-, -, -, -, -, below⟩ := isNumeral
  exact below

/-- A text spells one number at most. -/
theorem IsNumeral.unique {limit value value' : Nat} {text : String}
    (isNumeral : IsNumeral limit text value) (isNumeral' : IsNumeral limit text value') :
    value = value' :=
  Option.some.inj ((readNat?_eq_some_iff.mpr isNumeral).symm.trans
    (readNat?_eq_some_iff.mpr isNumeral'))

/-- A word is read from the numerals below `2^64`. -/
theorem readWord?_eq_some_iff {text : String} {word : UInt64} :
    readWord? text = some word ↔ IsNumeral (twoTo 64) text word.toNat := by
  rw [readWord?, Option.map_eq_some_iff, ← readNat?_eq_some_iff]
  constructor
  · rintro ⟨value, read, rfl⟩
    rwa [UInt64.toNat_ofNat_of_lt' (readNat?_eq_some_iff.mp read).lt_limit]
  · intro read
    exact ⟨word.toNat, read, UInt64.ofNat_toNat⟩

theorem readWord?_eq_none_iff {text : String} :
    readWord? text = none ↔ ∀ value, ¬ IsNumeral (twoTo 64) text value := by
  rw [readWord?, Option.map_eq_none_iff]
  constructor
  · intro unread value isNumeral
    rw [readNat?_eq_some_iff.mpr isNumeral] at unread
    cases unread
  · intro missing
    cases read : readNat? (twoTo 64) text with
    | none => rfl
    | some value => exact absurd (readNat?_eq_some_iff.mp read) (missing value)

/-- Digits without a sign are read as their value. -/
theorem readNat?_digits {limit : Nat} {digits : List Char} (nonempty : digits ≠ [])
    (all : ∀ digit ∈ digits, isDigit digit = true) (below : valueOfDigits digits < limit) :
    readNat? limit (String.ofList digits) = some (valueOfDigits digits) :=
  readNat?_eq_some_iff.mpr
    ⟨digits, .inl String.toList_ofList, nonempty, all, (valueOfDigits_eq all).symm, below⟩

/-- A word is read back from its digits. -/
theorem readWord?_decimalText (word : UInt64) :
    readWord? (decimalText word.toNat) = some word := by
  have below : valueOfDigits (digitsOf word.toNat) < twoTo 64 := by
    rw [valueOfDigits_digitsOf]
    exact word.toNat_lt
  rw [readWord?, decimalText, readNat?_digits (digitsOf_ne_nil _)
    (fun _ => isDigit_of_mem_digitsOf) below, valueOfDigits_digitsOf, Option.map_some,
    UInt64.ofNat_toNat]

theorem plain_decimalText (value : Nat) : Plain (decimalText value) := by
  refine ⟨?_, fun character member => ?_⟩
  · simpa [decimalText] using digitsOf_ne_nil value
  · rw [decimalText, String.toList_ofList] at member
    exact isPlain_of_isDigit (isDigit_of_mem_digitsOf member)

/-! ## Doubles -/

/-- A finite double is read back from its shortest text. -/
theorem readFloat?_shortest_of_isFinite {value : Float} (finite : value.isFinite = true) :
    readFloat? (shortest value) = some value := by
  obtain ⟨steps, sized⟩ := exists_size_of_isFinite finite
  exact readFloat?_shortest (by simp [sized])

/-- A sign in front of plain characters makes no difference. -/
theorem plain_of_signed {text : String} {negative : Bool} {written : List Char}
    (spelled : text.toList = (if negative then ['-'] else []) ++ written) (nonempty : written ≠ [])
    (plain : ∀ character ∈ written, isPlain character = true) : Plain text := by
  refine ⟨?_, fun character member => ?_⟩
  · rintro rfl
    exact nonempty (List.append_eq_nil_iff.mp spelled.symm).2
  · rw [spelled] at member
    rcases List.mem_append.mp member with signed | inWritten
    · split at signed
      · rw [List.mem_singleton.mp signed]
        decide
      · cases signed
    · exact plain character inWritten

/-- The text of every number is plain. -/
theorem plain_shortest_of_size {value : Float} (number : size value ≠ .undefined) :
    Plain (shortest value) := by
  cases sized : size value with
  | undefined => exact absurd sized number
  | infinite =>
    rw [shortest, sized]
    exact plain_of_signed String.toList_ofList (by decide) (by simp [Text.isPlain_iff])
  | finite steps =>
    obtain ⟨written, spelled, nonempty, characters⟩ := exists_toList_shortest sized
    refine plain_of_signed spelled nonempty fun character member => ?_
    rcases characters character member with digit | rfl
    · exact isPlain_of_isDigit digit
    · decide

theorem plain_shortest {value : Float} (finite : value.isFinite = true) :
    Plain (shortest value) := by
  obtain ⟨steps, sized⟩ := exists_size_of_isFinite finite
  exact plain_shortest_of_size (by simp [sized])

/-- No text of a finite double has an exponent. -/
theorem exponent_notMem_shortest {value : Float} (finite : value.isFinite = true) :
    'e' ∉ (shortest value).toList ∧ 'E' ∉ (shortest value).toList := by
  obtain ⟨steps, sized⟩ := exists_size_of_isFinite finite
  obtain ⟨written, spelled, -, characters⟩ := exists_toList_shortest sized
  have letterless {letter : Char} (digitless : isDigit letter = false) (pointless : letter ≠ '.')
      (signless : letter ≠ '-') : letter ∉ (shortest value).toList := by
    rw [spelled, List.mem_append]
    rintro (signed | inWritten)
    · split at signed
      · exact signless (List.mem_singleton.mp signed)
      · cases signed
    · rcases characters letter inWritten with digit | point
      · rw [digit] at digitless
        cases digitless
      · exact pointless point
  exact ⟨letterless (by decide) (by decide) (by decide),
    letterless (by decide) (by decide) (by decide)⟩

/-! ## What texts of numbers are made of -/

/-- Whether a character may be part of the text of a double. -/
def isPartOfText (character : Char) : Bool :=
  isDigit character || ['-', '.', 'i', 'n', 'f', 'N', 'a'].contains character

theorem isPartOfText_of_isDigit {character : Char} (digit : isDigit character = true) :
    isPartOfText character = true := by
  rw [isPartOfText, digit, Bool.true_or]

theorem isPartOfText_of_mem_undefined {character : Char} (member : character ∈ "NaN".toList) :
    isPartOfText character = true := by
  have letters : ∀ letter ∈ ['N', 'a', 'N'], isPartOfText letter = true := by simp [isPartOfText]
  exact letters character member

/-- A sign is part of a text like any other of its characters. -/
theorem isPartOfText_of_mem_signed {negative : Bool} {written : List Char} {character : Char}
    (all : ∀ other ∈ written, isPartOfText other = true)
    (member : character ∈ (if negative then ['-'] else []) ++ written) :
    isPartOfText character = true := by
  rcases List.mem_append.mp member with sign | inWritten
  · split at sign
    · rw [List.mem_singleton.mp sign]
      decide
    · cases sign
  · exact all character inWritten

theorem isPartOfText_of_mem_infinite {negative : Bool} {character : Char}
    (member : character ∈ (if negative then ['-'] else []) ++ ['i', 'n', 'f']) :
    isPartOfText character = true :=
  isPartOfText_of_mem_signed (by simp [isPartOfText]) member

theorem isPartOfText_of_mem_shortest {value : Float} {character : Char}
    (member : character ∈ (shortest value).toList) : isPartOfText character = true := by
  cases sized : size value with
  | undefined =>
    rw [shortest, sized] at member
    exact isPartOfText_of_mem_undefined member
  | infinite =>
    rw [shortest, sized, String.toList_ofList] at member
    exact isPartOfText_of_mem_infinite member
  | finite steps =>
    obtain ⟨written, spelled, -, characters⟩ := exists_toList_shortest sized
    rw [spelled] at member
    refine isPartOfText_of_mem_signed (fun other inWritten => ?_) member
    rcases characters other inWritten with digit | rfl
    · exact isPartOfText_of_isDigit digit
    · decide

theorem isPartOfText_of_mem_fixedDigits {places steps : Nat} {character : Char}
    (member : character ∈ fixedDigits places steps) : isPartOfText character = true := by
  unfold fixedDigits at member
  dsimp only at member
  split at member
  · exact isPartOfText_of_isDigit (isDigit_of_mem_digitsOf member)
  · rcases List.mem_append.mp member with whole | behind
    · exact isPartOfText_of_isDigit (isDigit_of_mem_digitsOf whole)
    · rcases List.mem_cons.mp behind with rfl | fraction
      · decide
      · exact isPartOfText_of_isDigit (isDigit_of_mem_padded fraction)

theorem isPartOfText_of_mem_fixed {places : Nat} {value : Float} {character : Char}
    (member : character ∈ (fixed places value).toList) : isPartOfText character = true := by
  cases sized : size value with
  | undefined =>
    rw [fixed, sized] at member
    exact isPartOfText_of_mem_undefined member
  | infinite =>
    rw [fixed, sized, String.toList_ofList] at member
    exact isPartOfText_of_mem_infinite member
  | finite steps =>
    rw [fixed, sized, String.toList_ofList] at member
    exact isPartOfText_of_mem_signed (fun _ => isPartOfText_of_mem_fixedDigits) member

theorem unbroken_shortest (value : Float) : Unbroken (shortest value) := fun member =>
  absurd (isPartOfText_of_mem_shortest member) (by decide)

theorem unbroken_fixed (places : Nat) (value : Float) : Unbroken (fixed places value) :=
  fun member => absurd (isPartOfText_of_mem_fixed member) (by decide)

theorem unbroken_decimalText (value : Nat) : Unbroken (decimalText value) :=
  (plain_decimalText value).unbroken

end DeltaStudy.Numeral
