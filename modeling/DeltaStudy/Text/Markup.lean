import DeltaStudy.Numeral.Digits

/-!
# Marked-up text

Text inside the elements and attributes of a markup document. Characters that
mean something to markup are written as named references, and control
characters as references to their number, so that written text never holds a
line end, a quote or an angle bracket. `plainText` takes a written text back.
-/

namespace DeltaStudy.Text

/-- The characters that have a name in markup. -/
def namedCharacters : List (Char × String) :=
  [('&', "amp"), ('<', "lt"), ('>', "gt"), ('"', "quot")]

/-- The name of a reference to a character that is not written as it stands. -/
def referenceName? (character : Char) : Option String :=
  match namedCharacters.find? fun entry => entry.1 = character with
  | some (_, name) => some name
  | none =>
    if character.toNat < 0x20 then some ("#" ++ Numeral.decimalText character.toNat) else none

/-- The written form of a character. -/
def markedUpCharacter (character : Char) : List Char :=
  match referenceName? character with
  | some name => '&' :: name.toList ++ [';']
  | none => [character]

/-- The written form of a text. -/
def markedUp (text : String) : String :=
  String.ofList (text.toList.flatMap markedUpCharacter)

/-- The character that a reference names. -/
def referredCharacter? (name : List Char) : Option Char :=
  match namedCharacters.find? fun entry => entry.2.toList = name with
  | some (character, _) => some character
  | none =>
    match name with
    | '#' :: digits => some (Char.ofNat (Numeral.valueOfDigits digits))
    | _ => none

/-- Take a written text back. The first argument holds the name of a reference
that has begun, with its latest character in front. -/
def plainFrom : Option (List Char) → List Char → List Char
  | _, [] => []
  | none, character :: rest =>
    if character = '&' then plainFrom (some []) rest else character :: plainFrom none rest
  | some name, character :: rest =>
    if character = ';' then (referredCharacter? name.reverse).toList ++ plainFrom none rest
    else plainFrom (some (character :: name)) rest

/-- The text that a written text stands for. -/
def plainText (text : String) : String :=
  String.ofList (plainFrom none text.toList)

end DeltaStudy.Text
