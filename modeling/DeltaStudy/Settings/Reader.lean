import DeltaStudy.Settings.Bindings
import DeltaStudy.Text.Blank
import DeltaStudy.Text.Utf8

/-!
# Settings files

A settings file assigns values to variables, one assignment a line. Reading
stops at the first line that is not valid and keeps the assignments before it.

Values may be quoted. Between single quotes everything stands for itself;
elsewhere a backslash takes the meaning of the next character, and a dollar sign
begins the name of a variable whose value is put in its place. A value ends at
the first blank outside quotes, and only a comment may follow. A quoted value
may go on over several lines.
-/

namespace DeltaStudy.Settings

/-- Where a line stands when it is looked over for its end. -/
inductive LinePlace where
  /-- Outside quotes. -/
  | outside
  /-- After a blank outside quotes. -/
  | blank
  /-- After a backslash outside quotes. -/
  | escaped
  /-- Between quotes of a kind. -/
  | within (quote : Char)
  /-- After a backslash between quotes of a kind. -/
  | escapedWithin (quote : Char)
deriving DecidableEq, Repr

/-- Where a line stands after one more character outside quotes. -/
def LinePlace.afterOutside (character : Char) : LinePlace :=
  if character = '\\' then .escaped
  else if character = '"' ∨ character = '\'' then .within character
  else if Text.isBlank character && character != '\n' && character != '\r' then .blank
  else .outside

/-- Where a line stands after one more character, if no comment begins there. -/
def LinePlace.next? (place : LinePlace) (character : Char) : Option LinePlace :=
  match place with
  | .outside => some (.afterOutside character)
  | .blank =>
    if character = '#' then none
    else if character = '\\' ∨ character = '"' ∨ character = '\'' then some (.afterOutside character)
    else some .outside
  | .escaped => some .outside
  | .within quote =>
    if character = '\\' then some (.escapedWithin quote)
    else if character = quote then some .outside
    else some place
  | .escapedWithin quote => some (.within quote)

/-- The part of a line in front of a comment, and where the line stands at its
end. -/
def lookOver : LinePlace → List Char → List Char × LinePlace
  | place, [] => ([], place)
  | place, character :: rest =>
    match place.next? character with
    | none => ([], .outside)
    | some next =>
      let (line, last) := lookOver next rest
      (character :: line, last)

/-- The first line of a text with its line feed, and what follows it. -/
def splitLine (text : List Char) : List Char × List Char :=
  let line := text.takeWhile (· != '\n')
  (line ++ (text.drop line.length).take 1, text.drop (line.length + 1))

/-- Whether a line holds nothing but a comment. -/
def isComment (line : List Char) : Bool :=
  (Text.dropLeadingBlanks line).head? == some '#'

/-- The logical line in front of a text: physical lines are joined as long as a
quote is open. The second argument holds what has been joined. A text that ends
inside a quote has no further logical line. -/
def takeLine : Nat → List Char → LinePlace → List Char → Option (List Char × List Char)
  | 0, _, _, _ => none
  | fuel + 1, joined, place, text =>
    let (line, rest) := splitLine text
    if line.isEmpty then none
    else if isComment (joined ++ line) then some ([], rest)
    else
      match lookOver place line with
      | (kept, .outside) => some (joined ++ kept, rest)
      | (kept, next) => takeLine fuel (joined ++ kept) next rest

/-- Where a value stands between two characters. -/
inductive ValuePlace where
  /-- Outside quotes. -/
  | outside
  /-- Between double quotes. -/
  | within
  /-- Between single quotes. -/
  | literal
  /-- After a backslash; the flag tells whether between double quotes. -/
  | escaped (within : Bool)
  /-- In the name of a variable; the flags tell whether between double quotes
  and whether between braces. -/
  | name (within braces : Bool) (characters : List Char)
  /-- After the end of the value. -/
  | ended
deriving DecidableEq, Repr

/-- The place outside or inside double quotes. -/
def ValuePlace.base (within : Bool) : ValuePlace :=
  if within then .within else .outside

/-- Take a character of a value where a name may begin: the next place, and what
the character adds to the value. -/
def stepBase (within : Bool) (character : Char) : ValuePlace × List Char :=
  if character = '$' then (.name within false [], [])
  else if character = '\\' then (.escaped within, [])
  else if within then
    if character = '"' then (.outside, []) else (.within, [character])
  else if character = '\'' then (.literal, [])
  else if character = '"' then (.within, [])
  else if character = ' ' ∨ character = '\t' then (.ended, [])
  else (.outside, [character])

/-- Whether a character can stand in the name of a variable inside a value. -/
def isNamePart (character : Char) : Bool :=
  character.isAlphanum

/-- Read the characters of a value. The function gives the values of variables;
the result is nothing if the value is not valid. -/
def readCharacters (valueOf : List Char → List Char) :
    ValuePlace → List Char → Option (List Char)
  | .outside, [] | .ended, [] => some []
  | .name false false characters, [] => some (valueOf characters.reverse)
  | .escaped false, [] => some []
  | _, [] => none
  | .ended, character :: rest =>
    if character = '#' then some []
    else if character = ' ' ∨ character = '\t' then readCharacters valueOf .ended rest
    else none
  | .escaped within, character :: rest =>
    let kept := if ['\\', '\'', '"', '$', ' '].contains character then some character
      else if character = 'n' then some '\n' else none
    match kept with
    | none => none
    | some kept => (readCharacters valueOf (.base within) rest).map (kept :: ·)
  | .literal, character :: rest =>
    if character = '\'' then readCharacters valueOf .outside rest
    else (readCharacters valueOf .literal rest).map (character :: ·)
  | .name within braces characters, character :: rest =>
    if isNamePart character then
      readCharacters valueOf (.name within braces (character :: characters)) rest
    else if braces then
      if character = '\x7d' then
        (readCharacters valueOf (.base within) rest).map (valueOf characters.reverse ++ ·)
      else readCharacters valueOf (.name within true (character :: characters)) rest
    else if character = '\x7b' ∧ characters = [] then
      readCharacters valueOf (.name within true []) rest
    else if character = '$' then
      (readCharacters valueOf (.name within false []) rest).map (valueOf characters.reverse ++ ·)
    else
      (readCharacters valueOf (.base within) rest).map
        (valueOf characters.reverse ++ character :: ·)
  | .within, character :: rest =>
    let (place, added) := stepBase true character
    (readCharacters valueOf place rest).map (added ++ ·)
  | .outside, character :: rest =>
    let (place, added) := stepBase false character
    (readCharacters valueOf place rest).map (added ++ ·)

/-- Whether a character can begin the name of a variable. -/
def beginsName (character : Char) : Bool :=
  character.isAlpha || character == '_'

/-- Whether a character can stand in the name of a variable that is assigned. -/
def isNameCharacter (character : Char) : Bool :=
  character.isAlphanum || character == '_' || character == '.'

/-- The name in front of a text, and what follows it. -/
def readName? (text : List Char) : Option (List Char × List Char) :=
  if text.head?.any beginsName then
    some (text.takeWhile isNameCharacter, Text.dropLeadingBlanks (text.dropWhile isNameCharacter))
  else
    none

/-- The name that a line assigns to, and the written value. The word `export`
may stand in front. -/
def readTarget? (line : List Char) : Option (List Char × List Char) := do
  let (name, rest) ← readName? line
  match rest with
  | '=' :: value => return (name, Text.dropLeadingBlanks value)
  | _ =>
    if name = ['e', 'x', 'p', 'o', 'r', 't'] then
      let (name, rest) ← readName? rest
      match rest with
      | '=' :: value => return (name, Text.dropLeadingBlanks value)
      | _ => none
    else none

/-- What a line says. -/
inductive Line where
  /-- Nothing. -/
  | empty
  | assignment (name value : String)
  /-- The line is not valid. -/
  | invalid
deriving DecidableEq, Repr

/-- Read a logical line. -/
def readLine (valueOf : List Char → List Char) (line : List Char) : Line :=
  let line := Text.trimmed line
  if line.isEmpty || line.head? == some '#' then .empty
  else
    match readTarget? line with
    | none => .invalid
    | some (name, written) =>
      if written.isEmpty || written.head? == some '#' then .assignment (String.ofList name) ""
      else
        match readCharacters valueOf .outside written with
        | some value => .assignment (String.ofList name) (String.ofList value)
        | none => .invalid

/-- What is put in the place of a variable inside a value. -/
def substitute (bindings : Bindings) (name : List Char) : List Char :=
  ((valueIn bindings (String.ofList name)).getD "").toList

/-- Add the assignments of a text to bindings, up to the first line that is not
valid. -/
def readLines : Nat → Bindings → List Char → Bindings
  | 0, bindings, _ => bindings
  | fuel + 1, bindings, text =>
    match takeLine (text.length + 1) [] .outside text with
    | none => bindings
    | some (line, rest) =>
      match readLine (substitute bindings) line with
      | .empty => readLines fuel bindings rest
      | .assignment name value => readLines fuel (bindings ++ [(name, value)]) rest
      | .invalid => bindings

/-- The longest start of bytes that is text, up to the line of the first fault. -/
def textOf (bytes : List UInt8) : List Char :=
  match Text.decodeUtf8 bytes with
  | .ok characters => characters
  | .error (_, index) =>
    let before := ((Text.decodeUtf8 (bytes.take index)).toOption).getD []
    (before.reverse.dropWhile (· != '\n')).reverse

/-- The text without the byte order mark in front. -/
def withoutMark : List Char → List Char
  | '\ufeff' :: rest => rest
  | text => text

/-- An environment with the assignments of a settings file behind it, so that a
variable of the environment keeps its value. -/
def extend (environment : Bindings) (settings : List UInt8) : Bindings :=
  let text := withoutMark (textOf settings)
  readLines (text.length + 1) environment text

end DeltaStudy.Settings
