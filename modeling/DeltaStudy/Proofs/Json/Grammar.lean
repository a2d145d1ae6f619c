import DeltaStudy.Json.Value
import DeltaStudy.Numeral.Digits

/-!
# Texts that spell JSON

The grammar of JSON as a relation between a value and the texts that spell it. A value has many
texts: blanks may stand between all of its parts, and a character of a string may be written
plainly, by a letter or by its code. What lies beyond the first plane is written by two codes.

The relation is authoritative and knows nothing of a reader. It takes a string as the units that
it is written with, whatever their halves of pairs amount to; which texts these units may stand
for is a relation of its own.
-/

namespace DeltaStudy.Json

/-! ## Blanks -/

/-- The characters that are blanks in JSON. -/
def blanks : List Char :=
  [' ', '\n', '\t', '\r']

/-- Blanks as they may stand between the parts of a value. -/
def Spacing (text : List Char) : Prop :=
  ∀ character ∈ text, character ∈ blanks

theorem Spacing.nil : Spacing [] := fun _ => nofun

/-- A text with blanks around it. -/
inductive Padded (text : List Char) : List Char → Prop
  | mk {front back : List Char} (before : Spacing front) (behind : Spacing back) :
    Padded text (front ++ text ++ back)

/-- There need not be any blanks. -/
theorem Padded.refl (text : List Char) : Padded text text := by
  have bare : Padded text ([] ++ text ++ []) := .mk .nil .nil
  rwa [List.nil_append, List.append_nil] at bare

/-! ## Strings -/

/-- A hexadecimal digit in either case. -/
def IsHexDigit (value : Nat) (digit : Char) : Prop :=
  value < 16 ∧ (digit = Nat.digitChar value ∨ digit = (Nat.digitChar value).toUpper)

/-- The four hexadecimal digits of a code. -/
inductive SpellsCode : Nat → List Char → Prop
  | digits {a b c d : Nat} {first second third fourth : Char} (isFirst : IsHexDigit a first)
    (isSecond : IsHexDigit b second) (isThird : IsHexDigit c third)
    (isFourth : IsHexDigit d fourth) :
    SpellsCode (((a * 16 + b) * 16 + c) * 16 + d) [first, second, third, fourth]

/-- The letters that may stand behind a backslash, with the characters that they stand for. -/
def escapeLetters : List (Char × Char) :=
  [('"', '"'), ('\\', '\\'), ('/', '/'), ('b', '\x08'), ('f', '\x0c'), ('n', '\n'), ('r', '\r'),
    ('t', '\t')]

/-- Texts that spell one unit of a string. -/
inductive SpellsUnit : StringUnit → List Char → Prop
  /-- Quotes, backslashes and control characters are not written plainly. -/
  | plain {character : Char} (noQuote : character ≠ '"') (noBackslash : character ≠ '\\')
    (noControl : 0x20 ≤ character.toNat) : SpellsUnit (.scalar character) [character]
  | letter {letter character : Char} (listed : (letter, character) ∈ escapeLetters) :
    SpellsUnit (.scalar character) ['\\', letter]
  | code {character : Char} {digits : List Char} (spelled : SpellsCode character.toNat digits) :
    SpellsUnit (.scalar character) ('\\' :: 'u' :: digits)
  /-- Half of a pair, which need not have another half beside it. -/
  | half {code : Nat} {digits : List Char} (surrogate : 0xd800 ≤ code ∧ code < 0xe000)
    (spelled : SpellsCode code digits) : SpellsUnit (.surrogate code) ('\\' :: 'u' :: digits)

/-- Texts that spell the units of a string one after another, without the quotes. -/
inductive SpellsUnits : List StringUnit → List Char → Prop
  | nil : SpellsUnits [] []
  | cons {unit : StringUnit} {units : List StringUnit} {front rest : List Char}
    (first : SpellsUnit unit front) (others : SpellsUnits units rest) :
    SpellsUnits (unit :: units) (front ++ rest)

/-- The units that a text may be written with: its characters, or two halves for a character
beyond the first plane. -/
inductive Encodes : List Char → List StringUnit → Prop
  | nil : Encodes [] []
  | scalar {character : Char} {text : List Char} {units : List StringUnit}
    (rest : Encodes text units) : Encodes (character :: text) (.scalar character :: units)
  | pair {character : Char} {high low : Nat} {text : List Char} {units : List StringUnit}
    (isHigh : 0xd800 ≤ high ∧ high < 0xdc00) (isLow : 0xdc00 ≤ low ∧ low < 0xe000)
    (joined : character.toNat = 0x10000 + (high - 0xd800) * 0x400 + (low - 0xdc00))
    (rest : Encodes text units) :
    Encodes (character :: text) (.surrogate high :: .surrogate low :: units)

/-! ## Numbers -/

/-- Decimal digits, one at least. -/
def Digits (text : List Char) : Prop :=
  text ≠ [] ∧ ∀ digit ∈ text, Numeral.isDigit digit = true

/-- A whole number without a sign. Its first digit is a zero only if it is the only one. -/
def WholePart (text : List Char) : Prop :=
  Digits text ∧ (text.head? = some '0' → text = ['0'])

/-- A point and digits, or nothing. -/
def FractionPart (text : List Char) : Prop :=
  text = [] ∨ ∃ digits, Digits digits ∧ text = '.' :: digits

/-- A mark, a sign or none, and digits, or nothing. -/
def ExponentPart (text : List Char) : Prop :=
  text = [] ∨ ∃ mark sign digits, (mark = 'e' ∨ mark = 'E') ∧ sign ∈ [[], ['+'], ['-']]
    ∧ Digits digits ∧ text = mark :: sign ++ digits

/-- Texts that are numbers. -/
inductive IsNumber : List Char → Prop
  | mk {sign whole fraction exponent : List Char} (signed : sign ∈ [[], ['-']])
    (isWhole : WholePart whole) (isFraction : FractionPart fraction)
    (isExponent : ExponentPart exponent) : IsNumber (sign ++ (whole ++ fraction ++ exponent))

/-! ## Values -/

/-- What a part of a text may spell. -/
inductive Part where
  /-- A value, without blanks around it. -/
  | value (value : Value)
  /-- The items of a list, one at least, without the brackets. -/
  | items (values : List Value)
  /-- The members of an object, one at least, without the braces. -/
  | members (members : List (List StringUnit × Value))

/-- Texts that spell a part. -/
inductive Spells : Part → List Char → Prop
  | null : Spells (.value .null) ['n', 'u', 'l', 'l']
  | affirmed : Spells (.value (.boolean true)) ['t', 'r', 'u', 'e']
  | denied : Spells (.value (.boolean false)) ['f', 'a', 'l', 's', 'e']
  | number {text : List Char} (written : IsNumber text) : Spells (.value (.number text)) text
  | string {units : List StringUnit} {text : List Char} (written : SpellsUnits units text) :
    Spells (.value (.string units)) ('"' :: text ++ ['"'])
  | emptyArray {text : List Char} (spacing : Spacing text) :
    Spells (.value (.array [])) ('[' :: text ++ [']'])
  | array {values : List Value} {text : List Char} (items : Spells (.items values) text) :
    Spells (.value (.array values)) ('[' :: text ++ [']'])
  | emptyObject {text : List Char} (spacing : Spacing text) :
    Spells (.value (.object [])) ('\x7b' :: text ++ ['\x7d'])
  | object {members : List (List StringUnit × Value)} {text : List Char}
    (written : Spells (.members members) text) :
    Spells (.value (.object members)) ('\x7b' :: text ++ ['\x7d'])
  | lastItem {value : Value} {text item : List Char} (spelled : Spells (.value value) text)
    (padded : Padded text item) : Spells (.items [value]) item
  | item {value : Value} {values : List Value} {text item rest : List Char}
    (spelled : Spells (.value value) text) (padded : Padded text item)
    (others : Spells (.items values) rest) : Spells (.items (value :: values)) (item ++ ',' :: rest)
  | lastMember {units : List StringUnit} {value : Value} {key name text item : List Char}
    (named : SpellsUnits units key) (nameSpaced : Padded ('"' :: key ++ ['"']) name)
    (spelled : Spells (.value value) text) (padded : Padded text item) :
    Spells (.members [(units, value)]) (name ++ ':' :: item)
  | member {units : List StringUnit} {value : Value}
    {members : List (List StringUnit × Value)} {key name text item rest : List Char}
    (named : SpellsUnits units key) (nameSpaced : Padded ('"' :: key ++ ['"']) name)
    (spelled : Spells (.value value) text) (padded : Padded text item)
    (others : Spells (.members members) rest) :
    Spells (.members ((units, value) :: members)) (name ++ ':' :: (item ++ ',' :: rest))

/-- Whole texts that spell a value, with blanks around it. -/
def Document (value : Value) (text : String) : Prop :=
  ∃ part, Spells (.value value) part ∧ Padded part text.toList

theorem Spells.document {value : Value} {text : List Char} (spells : Spells (.value value) text) :
    Document value (String.ofList text) := by
  refine ⟨text, spells, ?_⟩
  rw [String.toList_ofList]
  exact .refl text

end DeltaStudy.Json
