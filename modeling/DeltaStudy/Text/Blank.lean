/-!
# Blanks

The characters with the Unicode property `White_Space`, and the texts that are
left when they are taken off the ends.
-/

namespace DeltaStudy.Text

/-- Whether a character is white space in the sense of Unicode. -/
def isBlank (character : Char) : Bool :=
  let code := character.toNat
  (9 ≤ code && code ≤ 13) || code == 0x20 || code == 0x85 || code == 0xa0 || code == 0x1680
    || (0x2000 ≤ code && code ≤ 0x200a) || code == 0x2028 || code == 0x2029 || code == 0x202f
    || code == 0x205f || code == 0x3000

/-- A text without the blanks in front of it. -/
def dropLeadingBlanks (text : List Char) : List Char :=
  text.dropWhile isBlank

/-- A text without the blanks behind it. -/
def dropTrailingBlanks (text : List Char) : List Char :=
  (text.reverse.dropWhile isBlank).reverse

/-- A text without the blanks around it. -/
def trimmed (text : List Char) : List Char :=
  dropTrailingBlanks (dropLeadingBlanks text)

/-- A string without the blanks around it. -/
def trim (text : String) : String :=
  String.ofList (trimmed text.toList)

/-- A string without the blanks behind it. -/
def trimEnd (text : String) : String :=
  String.ofList (dropTrailingBlanks text.toList)

end DeltaStudy.Text
