import DeltaStudy.Text.Visible

/-!
# Quoted text

A quoted text stands between double quotes and shows every character that could
be mistaken: quotes and backslashes get a backslash, tabs, line ends and the
zero character their letters, and every character that does not show on its own
its code in hexadecimal.
-/

namespace DeltaStudy.Text

/-- The written form of one character inside quotes. -/
def quotedCharacter (character : Char) : List Char :=
  if character == '"' || character == '\\' then ['\\', character]
  else if character == '\t' then ['\\', 't']
  else if character == '\n' then ['\\', 'n']
  else if character == '\r' then ['\\', 'r']
  else if character.toNat == 0 then ['\\', '0']
  else if isVisible character then [character]
  else ['\\', 'u', '\x7b'] ++ Nat.toDigits 16 character.toNat ++ ['\x7d']

/-- A string between double quotes. -/
def quoted (text : String) : String :=
  String.ofList ('"' :: text.toList.flatMap quotedCharacter ++ ['"'])

end DeltaStudy.Text
