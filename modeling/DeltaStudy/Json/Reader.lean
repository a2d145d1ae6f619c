import DeltaStudy.Json.Value
import DeltaStudy.Numeral.Digits

/-!
# Reading JSON

A reader for the whole grammar: values nest to any depth, the only blanks are
the four that the format names, and nothing but blanks may follow the value. A
byte order mark is no blank.

The functions that read nested values count down from a bound on the work that
is left. Every call either consumes a character or is followed by one that
does, so twice the length of the text is always enough.
-/

namespace DeltaStudy.Json

/-- Whether a character may stand between the parts of a value. -/
def isSpace (character : Char) : Bool :=
  character == ' ' || character == '\n' || character == '\t' || character == '\r'

/-- A text without the blanks in front of it. -/
def skipSpace (text : List Char) : List Char :=
  text.dropWhile isSpace

/-- The value of a hexadecimal digit. -/
def hexValue? (character : Char) : Option Nat :=
  if '0' ≤ character ∧ character ≤ '9' then some (character.toNat - '0'.toNat)
  else if 'a' ≤ character ∧ character ≤ 'f' then some (character.toNat - 'a'.toNat + 10)
  else if 'A' ≤ character ∧ character ≤ 'F' then some (character.toNat - 'A'.toNat + 10)
  else none

/-- Read the four hexadecimal digits of an escape. -/
def readHex? : List Char → Option (Nat × List Char)
  | a :: b :: c :: d :: rest => do
    let a ← hexValue? a
    let b ← hexValue? b
    let c ← hexValue? c
    let d ← hexValue? d
    return (((a * 16 + b) * 16 + c) * 16 + d, rest)
  | _ => none

/-- The unit that an escaped code stands for. -/
def unitOfCode (code : Nat) : StringUnit :=
  if 0xd800 ≤ code ∧ code < 0xe000 then .surrogate code else .scalar (Char.ofNat code)

/-- The character that a one-letter escape stands for. -/
def escapeLetter? (letter : Char) : Option Char :=
  match letter with
  | '"' => some '"'
  | '\\' => some '\\'
  | '/' => some '/'
  | 'b' => some (Char.ofNat 8)
  | 'f' => some (Char.ofNat 12)
  | 'n' => some '\n'
  | 'r' => some '\r'
  | 't' => some '\t'
  | _ => none

/-- Read one unit of a string after a backslash. -/
def readEscape? : List Char → Option (StringUnit × List Char)
  | 'u' :: rest => (readHex? rest).map fun (code, rest) => (unitOfCode code, rest)
  | letter :: rest => (escapeLetter? letter).map fun character => (.scalar character, rest)
  | [] => none

/-- Read the units of a string up to its closing quote. Control characters have
to be escaped. -/
def readUnits? : Nat → List Char → Option (List StringUnit × List Char)
  | 0, _ => none
  | _ + 1, [] => none
  | fuel + 1, character :: rest =>
    if character == '"' then
      some ([], rest)
    else if character == '\\' then do
      let (unit, rest) ← readEscape? rest
      let (units, rest) ← readUnits? fuel rest
      return (unit :: units, rest)
    else if character.toNat < 0x20 then
      none
    else do
      let (units, rest) ← readUnits? fuel rest
      return (.scalar character :: units, rest)

/-- Split off the digits in front of a text. -/
def splitDigits (text : List Char) : List Char × List Char :=
  (text.takeWhile Numeral.isDigit, text.dropWhile Numeral.isDigit)

/-- Split off the fraction of a number, which may be missing. -/
def readFraction? : List Char → Option (List Char × List Char)
  | '.' :: rest =>
    let (digits, rest) := splitDigits rest
    if digits.isEmpty then none else some ('.' :: digits, rest)
  | text => some ([], text)

/-- Split off the exponent of a number, which may be missing. -/
def readExponent? : List Char → Option (List Char × List Char)
  | mark :: rest =>
    if mark == 'e' || mark == 'E' then
      let (sign, rest) := match rest with
        | '+' :: rest => (['+'], rest)
        | '-' :: rest => (['-'], rest)
        | rest => ([], rest)
      let (digits, rest) := splitDigits rest
      if digits.isEmpty then none else some (mark :: sign ++ digits, rest)
    else
      some ([], mark :: rest)
  | [] => some ([], [])

/-- Read a number without its sign. A zero in front stands alone. -/
def readUnsigned? (text : List Char) : Option (List Char × List Char) := do
  let (whole, rest) := splitDigits text
  if whole.isEmpty || (whole.head? == some '0' && whole.length != 1) then
    none
  else do
    let (fraction, rest) ← readFraction? rest
    let (exponent, rest) ← readExponent? rest
    return (whole ++ fraction ++ exponent, rest)

/-- Read a number in its spelling. -/
def readNumber? : List Char → Option (List Char × List Char)
  | '-' :: rest => (readUnsigned? rest).map fun (spelling, rest) => ('-' :: spelling, rest)
  | text => readUnsigned? text

mutual

/-- Read a value, blanks in front of it allowed. -/
def readValue? : Nat → List Char → Option (Value × List Char)
  | 0, _ => none
  | fuel + 1, text =>
    match skipSpace text with
    | 'n' :: 'u' :: 'l' :: 'l' :: rest => some (.null, rest)
    | 't' :: 'r' :: 'u' :: 'e' :: rest => some (.boolean true, rest)
    | 'f' :: 'a' :: 'l' :: 's' :: 'e' :: rest => some (.boolean false, rest)
    | '"' :: rest => (readUnits? (rest.length + 1) rest).map fun (units, rest) =>
        (.string units, rest)
    | '[' :: rest =>
      match skipSpace rest with
      | ']' :: rest => some (.array [], rest)
      | rest => (readItems? fuel rest).map fun (items, rest) => (.array items, rest)
    | '\x7b' :: rest =>
      match skipSpace rest with
      | '\x7d' :: rest => some (.object [], rest)
      | rest => (readMembers? fuel rest).map fun (members, rest) => (.object members, rest)
    | text => (readNumber? text).map fun (spelling, rest) => (.number spelling, rest)

/-- Read the items of a list that has at least one, with the closing bracket. -/
def readItems? : Nat → List Char → Option (List Value × List Char)
  | 0, _ => none
  | fuel + 1, text => do
    let (item, rest) ← readValue? fuel text
    match skipSpace rest with
    | ']' :: rest => return ([item], rest)
    | ',' :: rest =>
      let (items, rest) ← readItems? fuel rest
      return (item :: items, rest)
    | _ => none

/-- Read the members of an object that has at least one, with the closing brace. -/
def readMembers? : Nat → List Char → Option (List (List StringUnit × Value) × List Char)
  | 0, _ => none
  | fuel + 1, text =>
    match skipSpace text with
    | '"' :: rest => do
      let (key, rest) ← readUnits? (rest.length + 1) rest
      match skipSpace rest with
      | ':' :: rest =>
        let (value, rest) ← readValue? fuel rest
        match skipSpace rest with
        | '\x7d' :: rest => return ([(key, value)], rest)
        | ',' :: rest =>
          let (members, rest) ← readMembers? fuel rest
          return ((key, value) :: members, rest)
        | _ => none
      | _ => none
    | _ => none

end

/-- The value that a whole text spells. -/
def read? (text : String) : Option Value :=
  let characters := text.toList
  match readValue? (2 * characters.length + 2) characters with
  | some (value, rest) => if (skipSpace rest).isEmpty then some value else none
  | none => none

end DeltaStudy.Json
