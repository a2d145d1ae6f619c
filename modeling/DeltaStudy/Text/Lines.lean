import DeltaStudy.Text.Blank

/-!
# Lines

Texts of several lines, and the two ways in which a report takes in a text that
may have several lines itself: its first line only, or all of them with every
line after the first one indented.
-/

namespace DeltaStudy.Text

/-- The lines as one text, each with its line feed. -/
def written (lines : List String) : String :=
  String.ofList (lines.flatMap fun line => line.toList ++ ['\n'])

/-- A line that stood in front of a line feed, without the carriage return that
may belong to the line feed. -/
def withoutReturn (line : List Char) : List Char :=
  if line.getLast? = some '\r' then line.dropLast else line

/-- The first line of a text. A carriage return belongs to the end of the line
only if a line feed follows it. -/
def firstLine (text : String) : String :=
  let line := text.toList.takeWhile (· != '\n')
  String.ofList (if text.toList.contains '\n' then withoutReturn line else line)

/-- What stands in front of every line of a text after its first. -/
def indentation : List Char :=
  [' ', ' ', ' ', ' ']

/-- A character of an indented text. -/
def indentedCharacter (character : Char) : List Char :=
  if character = '\n' then character :: indentation else [character]

/-- A text without the blanks behind it and with every line after the first one
indented. -/
def indented (text : String) : String :=
  String.ofList ((dropTrailingBlanks text.toList).flatMap indentedCharacter)

end DeltaStudy.Text
