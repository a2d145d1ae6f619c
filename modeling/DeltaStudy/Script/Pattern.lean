/-!
# Patterns

Patterns of a script: a star stands for any text, a question mark for any one
character, and everything else for itself. A pattern can be matched as a whole
and it can be taken off either end of a text, as little or as much of it as
possible.
-/

namespace DeltaStudy.Script

/-- A piece of a pattern. -/
inductive Atom where
  /-- A character that stands for itself. -/
  | exactly (character : Char)
  /-- Any one character. -/
  | anyCharacter
  | anyText
deriving DecidableEq, Repr

abbrev Pattern := List Atom

/-- The piece that an unquoted character stands for. -/
def atomOf (character : Char) : Atom :=
  if character = '*' then .anyText
  else if character = '?' then .anyCharacter
  else .exactly character

/-- A text and everything that is left of it when it is cut from the front. -/
def suffixesOf : List Char → List (List Char)
  | [] => [[]]
  | character :: rest => (character :: rest) :: suffixesOf rest

/-- Whether a pattern matches a whole text. -/
def matchesText : Pattern → List Char → Bool
  | [], text => text.isEmpty
  | .exactly character :: pattern, text =>
    text.head? == some character && matchesText pattern text.tail
  | .anyCharacter :: pattern, text => !text.isEmpty && matchesText pattern text.tail
  | .anyText :: pattern, text => (suffixesOf text).any (matchesText pattern)

/-- Which part of a text a pattern is taken off. -/
inductive Trim where
  /-- The shortest matching start. -/
  | shortestStart
  /-- The longest matching start. -/
  | longestStart
  /-- The shortest matching end. -/
  | shortestEnd
  /-- The longest matching end. -/
  | longestEnd
deriving DecidableEq, Repr

/-- Take a pattern off a text; nothing changes if it does not match. -/
def Trim.apply (trim : Trim) (pattern : Pattern) (text : List Char) : List Char :=
  let lengths := List.range (text.length + 1)
  let startMatches (length : Nat) := matchesText pattern (text.take length)
  let endMatches (length : Nat) := matchesText pattern (text.drop (text.length - length))
  match trim with
  | .shortestStart => text.drop ((lengths.find? startMatches).getD 0)
  | .longestStart => text.drop ((lengths.reverse.find? startMatches).getD 0)
  | .shortestEnd => text.take (text.length - (lengths.find? endMatches).getD 0)
  | .longestEnd => text.take (text.length - (lengths.reverse.find? endMatches).getD 0)

end DeltaStudy.Script
