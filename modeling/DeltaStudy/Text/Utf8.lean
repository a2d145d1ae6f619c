import DeltaStudy.Numeral.Digits

/-!
# UTF-8

Decoding of byte strings. Where the bytes are not UTF-8, the fault is located:
the longest start of a character that is there is counted as one fault, and a
character that the end of the bytes cuts off is told apart from a wrong byte.
-/

namespace DeltaStudy.Text

/-- Why bytes are not UTF-8 at some place. -/
inductive Utf8Fault where
  /-- So many bytes cannot be part of any character. -/
  | invalid (length : Nat)
  /-- The bytes end inside a character. -/
  | incomplete
deriving DecidableEq, Repr

/-- The text of a fault at an index. -/
def Utf8Fault.text (index : Nat) : Utf8Fault → String
  | .invalid length =>
    "invalid utf-8 sequence of " ++ Numeral.decimalText length ++ " bytes from index "
      ++ Numeral.decimalText index
  | .incomplete => "incomplete utf-8 byte sequence from index " ++ Numeral.decimalText index

/-- The number of bytes after the first byte of a character, and the bounds of
the second byte, which rule out overlong forms, surrogates and what lies beyond
the last character. -/
def continuation? (first : UInt8) : Option (Nat × UInt8 × UInt8) :=
  if first < 0x80 then some (0, 0x80, 0xbf)
  else if first < 0xc2 then none
  else if first < 0xe0 then some (1, 0x80, 0xbf)
  else if first == 0xe0 then some (2, 0xa0, 0xbf)
  else if first == 0xed then some (2, 0x80, 0x9f)
  else if first < 0xf0 then some (2, 0x80, 0xbf)
  else if first == 0xf0 then some (3, 0x90, 0xbf)
  else if first < 0xf4 then some (3, 0x80, 0xbf)
  else if first == 0xf4 then some (3, 0x80, 0x8f)
  else none

/-- The payload bits of the first byte of a character with so many bytes after it. -/
def leadBits (count : Nat) (first : UInt8) : Nat :=
  match count with
  | 0 => first.toNat
  | 1 => first.toNat % 32
  | 2 => first.toNat % 16
  | _ => first.toNat % 8

/-- Read the bytes that continue a character. `seen` counts the bytes before
them and `code` holds the bits so far. -/
def readContinuation : Nat → Nat → UInt8 → UInt8 → Nat → List UInt8 → Except Utf8Fault Nat
  | 0, _, _, _, code, _ => .ok code
  | _ + 1, _, _, _, _, [] => .error .incomplete
  | count + 1, seen, low, high, code, byte :: rest =>
    if low ≤ byte && byte ≤ high then
      readContinuation count (seen + 1) 0x80 0xbf (code * 64 + byte.toNat % 64) rest
    else
      .error (.invalid seen)

/-- Read the character in front of a byte string, with the number of bytes after
its first. -/
def readCharacter (first : UInt8) (rest : List UInt8) : Except Utf8Fault (Char × Nat) :=
  match continuation? first with
  | none => .error (.invalid 1)
  | some (count, low, high) => do
    let code ← readContinuation count 1 low high (leadBits count first) rest
    return (Char.ofNat code, count)

/-- Decode bytes from a given index on; the second argument bounds the number of
characters. -/
def decodeFrom (index : Nat) : Nat → List UInt8 → Except (Utf8Fault × Nat) (List Char)
  | _, [] => .ok []
  | 0, _ => .ok []
  | fuel + 1, first :: rest =>
    match readCharacter first rest with
    | .error fault => .error (fault, index)
    | .ok (character, count) => do
      let more ← decodeFrom (index + count + 1) fuel (rest.drop count)
      return character :: more

/-- Decode bytes, or give the first fault and the index where it begins. -/
def decodeUtf8 (bytes : List UInt8) : Except (Utf8Fault × Nat) (List Char) :=
  decodeFrom 0 bytes.length bytes

/-- The text that bytes spell, if they are UTF-8. -/
def decodeUtf8? (bytes : List UInt8) : Option String :=
  match decodeUtf8 bytes with
  | .ok characters => some (String.ofList characters)
  | .error _ => none

/-- What takes the place of bytes that are not UTF-8. -/
def replacement : Char := '\ufffd'

/-- Decode bytes with a replacement for every fault; the first argument bounds
the number of characters. -/
def decodeWithin : Nat → List UInt8 → List Char
  | _, [] => []
  | 0, _ => []
  | fuel + 1, first :: rest =>
    match readCharacter first rest with
    | .ok (character, count) => character :: decodeWithin fuel (rest.drop count)
    | .error (.invalid length) => replacement :: decodeWithin fuel (rest.drop (length - 1))
    | .error .incomplete => [replacement]

/-- The text that bytes spell, with a replacement for every fault. -/
def decodeLeniently (bytes : List UInt8) : String :=
  String.ofList (decodeWithin bytes.length bytes)

/-- The bytes that spell a text. -/
def encodeUtf8 (text : String) : List UInt8 :=
  text.toUTF8.toList

end DeltaStudy.Text
