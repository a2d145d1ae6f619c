import DeltaStudy.Json.Reader
import DeltaStudy.Proofs.Json.Grammar

/-!
# Strings are read as they are spelled

Reading a string gives the units that it is written with, and the units that a text may be
written with stand for this text. So a text can be written in any of its ways.
-/

namespace DeltaStudy.Json

variable {text digits rest : List Char} {units : List StringUnit} {unit : StringUnit}
  {code fuel : Nat}

/-! ## Codes -/

theorem hexValue?_of_isHexDigit {value : Nat} {digit : Char} (isDigit : IsHexDigit value digit) :
    hexValue? digit = some value := by
  have table : ∀ value < 16, hexValue? (Nat.digitChar value) = some value
      ∧ hexValue? (Nat.digitChar value).toUpper = some value := by
    decide
  obtain ⟨small, rfl | rfl⟩ := isDigit
  · exact (table value small).1
  · exact (table value small).2

theorem SpellsCode.readHex? (spelled : SpellsCode code digits) (rest : List Char) :
    Json.readHex? (digits ++ rest) = some (code, rest) := by
  cases spelled with
  | digits isFirst isSecond isThird isFourth =>
    simp only [List.cons_append, List.nil_append, Json.readHex?, hexValue?_of_isHexDigit isFirst,
      hexValue?_of_isHexDigit isSecond, hexValue?_of_isHexDigit isThird,
      hexValue?_of_isHexDigit isFourth]
    rfl

/-- The code of a character is not that of half of a pair. -/
theorem unitOfCode_toNat (character : Char) :
    unitOfCode character.toNat = .scalar character := by
  have valid : character.toNat < 0xd800 ∨ 0xdfff < character.toNat ∧ character.toNat < 0x110000 :=
    character.valid
  rw [unitOfCode, if_neg (by omega), Char.ofNat_toNat]

/-! ## Units -/

theorem escapeLetter?_of_mem {letter character : Char}
    (listed : (letter, character) ∈ escapeLetters) :
    letter ≠ 'u' ∧ escapeLetter? letter = some character := by
  have table : ∀ entry ∈ escapeLetters, entry.1 ≠ 'u' ∧ escapeLetter? entry.1 = some entry.2 := by
    decide
  exact table _ listed

/-- A unit is read from any of its spellings. -/
theorem SpellsUnit.readUnits? (spelled : SpellsUnit unit text) (rest : List Char) :
    Json.readUnits? (fuel + 1) (text ++ rest)
      = (Json.readUnits? fuel rest).map fun (units, rest) => (unit :: units, rest) := by
  have continued (escaped : List Char) (read : readEscape? (escaped ++ rest) = some (unit, rest)) :
      Json.readUnits? (fuel + 1) ('\\' :: escaped ++ rest)
        = (Json.readUnits? fuel rest).map fun (units, rest) => (unit :: units, rest) := by
    rw [List.cons_append, Json.readUnits?, if_neg (by decide), if_pos (by decide), read]
    exact Option.map_eq_bind.symm
  cases spelled with
  | @plain character noQuote noBackslash noControl =>
    rw [List.singleton_append, Json.readUnits?, if_neg (by simpa using noQuote),
      if_neg (by simpa using noBackslash), if_neg (Nat.not_lt.mpr noControl)]
    exact Option.map_eq_bind.symm
  | @letter letter character listed =>
    obtain ⟨notCode, stands⟩ := escapeLetter?_of_mem listed
    refine continued [letter] ?_
    rw [List.singleton_append, readEscape?, stands, Option.map_some]
    exact notCode
  | @code character digits spelled =>
    refine continued ('u' :: digits) ?_
    rw [List.cons_append, readEscape?, spelled.readHex?, ← unitOfCode_toNat, Option.map_some]
  | @half code digits surrogate spelled =>
    have unit : unitOfCode code = .surrogate code := if_pos surrogate
    refine continued ('u' :: digits) ?_
    rw [List.cons_append, readEscape?, spelled.readHex?, ← unit, Option.map_some]

theorem SpellsUnit.length_pos (spelled : SpellsUnit unit text) : 0 < text.length := by
  cases spelled <;> exact Nat.succ_pos _

/-- A string is read from any of its spellings, up to its closing quote. -/
theorem SpellsUnits.readUnits? (spelled : SpellsUnits units text) (bound : text.length < fuel)
    (rest : List Char) : Json.readUnits? fuel (text ++ '"' :: rest) = some (units, rest) := by
  induction spelled generalizing fuel with
  | nil =>
    obtain ⟨fuel, rfl⟩ := Nat.exists_eq_succ_of_ne_zero (Nat.ne_of_gt bound)
    rfl
  | @cons unit units front back first others inductionHypothesis =>
    have consumed := first.length_pos
    rw [List.length_append] at bound
    obtain ⟨fuel, rfl⟩ := Nat.exists_eq_succ_of_ne_zero (by omega : fuel ≠ 0)
    rw [List.append_assoc, Nat.succ_eq_add_one, first.readUnits?,
      inductionHypothesis (by omega), Option.map_some]

/-! ## Texts -/

theorem exists_spellsCode (below : code < 0x10000) : ∃ digits, SpellsCode code digits := by
  have split : code
      = ((code / 4096 * 16 + code / 256 % 16) * 16 + code / 16 % 16) * 16 + code % 16 := by
    omega
  rw [split]
  exact ⟨_, .digits ⟨by omega, .inl rfl⟩ ⟨by omega, .inl rfl⟩ ⟨by omega, .inl rfl⟩
    ⟨by omega, .inl rfl⟩⟩

/-- Every character has a spelling: its code if it is a control character, and a letter behind a
backslash if it would end the string or begin an escape. -/
theorem exists_spellsUnit (character : Char) : ∃ text, SpellsUnit (.scalar character) text := by
  by_cases quote : character = '"'
  · have listed : ('"', character) ∈ escapeLetters := by simp [quote, escapeLetters]
    exact ⟨_, .letter listed⟩
  by_cases backslash : character = '\\'
  · have listed : ('\\', character) ∈ escapeLetters := by simp [backslash, escapeLetters]
    exact ⟨_, .letter listed⟩
  by_cases control : character.toNat < 0x20
  · obtain ⟨digits, spelled⟩ := exists_spellsCode (by omega : character.toNat < 0x10000)
    exact ⟨_, .code spelled⟩
  · exact ⟨_, .plain quote backslash (Nat.not_lt.mp control)⟩

theorem exists_spellsUnits (text : List Char) :
    ∃ written, SpellsUnits (text.map .scalar) written := by
  induction text with
  | nil => exact ⟨[], .nil⟩
  | cons character text inductionHypothesis =>
    obtain ⟨front, first⟩ := exists_spellsUnit character
    obtain ⟨rest, others⟩ := inductionHypothesis
    exact ⟨_, .cons first others⟩

/-- Characters that need no escape may be written plainly. -/
theorem spellsUnits_plain (text : List Char) (plain : ∀ character ∈ text,
    character ≠ '"' ∧ character ≠ '\\' ∧ 0x20 ≤ character.toNat) :
    SpellsUnits (text.map .scalar) text := by
  induction text with
  | nil => exact .nil
  | cons character text inductionHypothesis =>
    obtain ⟨⟨noQuote, noBackslash, noControl⟩, others⟩ := List.forall_mem_cons.mp plain
    exact .cons (.plain noQuote noBackslash noControl) (inductionHypothesis others)

/-- A text may be written with its own characters. -/
theorem encodes_scalars (text : List Char) : Encodes text (text.map .scalar) := by
  induction text with
  | nil => exact .nil
  | cons character text inductionHypothesis => exact .scalar inductionHypothesis

/-- A text is what the units stand for that it may be written with. -/
theorem Encodes.textOfUnits? (encodes : Encodes text units) :
    Json.textOfUnits? units = some text := by
  induction encodes with
  | nil => rfl
  | scalar rest inductionHypothesis =>
    rw [Json.textOfUnits?, inductionHypothesis, Option.map_some]
  | pair isHigh isLow joined rest inductionHypothesis =>
    rw [Json.textOfUnits?, if_pos ⟨isHigh.2, isLow.1⟩, inductionHypothesis, Option.map_some,
      ← joined, Char.ofNat_toNat]

end DeltaStudy.Json
