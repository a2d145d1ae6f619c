import DeltaStudy.Numeral.Digits
import DeltaStudy.Script.Command

/-!
# Reading scripts

From the text of a script to its command: first to tokens, which know the line
they stand in, then by recursive descent. The fuel is a multiple of the length
of what is read: at most four calls follow each other before something has been
read, so it is never used up.
-/

namespace DeltaStudy.Script

inductive Token where
  | word (word : Word)
  /-- A sign that parts or joins commands. -/
  | mark (text : String)
  /-- A redirection to or from the file in the next word. -/
  | redirect (descriptor : Nat) (sign : String)
  /-- A redirection to another descriptor. -/
  | copy (descriptor other : Nat)
deriving DecidableEq, Repr

/-- A token with the line it stands in. -/
structure Located where
  token : Token
  /-- The line, counted from one. -/
  line : Nat
deriving DecidableEq, Repr

/-- Whether a character can stand in the name of a variable. -/
def isNameCharacter (character : Char) : Bool :=
  character.isAlphanum || character == '_'

/-- Whether a character ends a word. -/
def endsWord (character : Char) : Bool :=
  [' ', '\t', '\n', ';', '&', '|', '<', '>', '(', ')'].contains character

/-- Whether a character is the name of a parameter by itself. -/
def isSpecial (character : Char) : Bool :=
  ['@', '*', '#', '?', '$', '!', '-'].contains character || character.isDigit

/-- The pattern to take off that is written after the name of a parameter. -/
def readTrim : List Char → Option (Trim × Pattern)
  | '#' :: '#' :: pattern => some (.longestStart, pattern.map atomOf)
  | '#' :: pattern => some (.shortestStart, pattern.map atomOf)
  | '%' :: '%' :: pattern => some (.longestEnd, pattern.map atomOf)
  | '%' :: pattern => some (.shortestEnd, pattern.map atomOf)
  | _ => none

/-- The value of a parameter that is written between braces. -/
def bracedValue (quoted : Bool) (inside : List Char) : Part :=
  let named := inside.takeWhile isNameCharacter
  let name := if named.isEmpty then inside.take 1 else named
  .value quoted (String.ofList name) (readTrim (inside.drop name.length))

/-- The part that a dollar sign begins, given what follows it. -/
def readValue (quoted : Bool) : List Char → Part × List Char
  | [] => (.quoted ['$'], [])
  | '\x7b' :: rest =>
    let inside := rest.takeWhile (· != '\x7d')
    (bracedValue quoted inside, rest.drop (inside.length + 1))
  | character :: rest =>
    if isSpecial character then (.value quoted (String.singleton character) none, rest)
    else
      let name := (character :: rest).takeWhile isNameCharacter
      if name.isEmpty then (.quoted ['$'], character :: rest)
      else (.value quoted (String.ofList name) none, (character :: rest).drop name.length)

/-- Whether a backslash between double quotes takes the meaning of a character. -/
def isEscapable (character : Char) : Bool :=
  ['$', '"', '\\', '\x60'].contains character

/-- The parts up to the closing double quote, and what follows it. -/
def readQuoted : Nat → List Char → Word × List Char
  | 0, text => ([], text)
  | _, [] => ([], [])
  | fuel + 1, character :: rest =>
    if character = '"' then ([], rest)
    else if character = '$' then
      let (part, rest) := readValue true rest
      let (parts, rest) := readQuoted fuel rest
      (part :: parts, rest)
    else
      match character, rest with
      | '\\', escaped :: rest =>
        let kept := if isEscapable escaped then [escaped]
          else if escaped = '\n' then [] else [character, escaped]
        let (parts, rest) := readQuoted fuel rest
        (.quoted kept :: parts, rest)
      | _, rest =>
        let (parts, rest) := readQuoted fuel rest
        (.quoted [character] :: parts, rest)

/-- The parts of a word, and what follows it. -/
def readWord : Nat → List Char → Word × List Char
  | 0, text => ([], text)
  | _, [] => ([], [])
  | fuel + 1, character :: rest =>
    if endsWord character then ([], character :: rest)
    else if character = '\'' then
      let inside := rest.takeWhile (· != '\'')
      let (parts, rest) := readWord fuel (rest.drop (inside.length + 1))
      (.quoted inside :: parts, rest)
    else if character = '"' then
      let (inside, rest) := readQuoted fuel rest
      let (parts, rest) := readWord fuel rest
      (.quoted [] :: inside ++ parts, rest)
    else if character = '$' then
      let (part, rest) := readValue false rest
      let (parts, rest) := readWord fuel rest
      (part :: parts, rest)
    else if character = '\\' then
      let kept := if rest.head? = some '\n' then [] else rest.take 1
      let (parts, rest) := readWord fuel rest.tail
      (.quoted kept :: parts, rest)
    else
      let (parts, rest) := readWord fuel rest
      (.bare character :: parts, rest)

/-- The redirection of a descriptor that an angle bracket begins. -/
def readRedirection (descriptor : Nat) : List Char → Token × List Char
  | '>' :: '>' :: rest => (.redirect descriptor ">>", rest)
  | '>' :: '&' :: digit :: rest =>
    (.copy descriptor ((Numeral.digitValue? digit).getD 0), rest)
  | '<' :: rest => (.redirect descriptor "<", rest)
  | _ :: rest => (.redirect descriptor ">", rest)
  | [] => (.mark "", [])

/-- The sign in front of a text, if there is one. -/
def readMark : List Char → Option (String × List Char)
  | ';' :: ';' :: rest => some (";;", rest)
  | '&' :: '&' :: rest => some ("&&", rest)
  | '|' :: '|' :: rest => some ("||", rest)
  | character :: rest =>
    if ['\n', ';', '&', '|', '(', ')'].contains character
      then some (String.singleton character, rest) else none
  | [] => none

/-- The token in front of a text that is neither blank nor a comment. -/
def readToken (fuel : Nat) (text : List Char) : Token × List Char :=
  match readMark text with
  | some (mark, rest) => (.mark mark, rest)
  | none =>
    match text with
    | '>' :: _ => readRedirection 1 text
    | '<' :: _ => readRedirection 0 text
    | digit :: '>' :: rest =>
      match Numeral.digitValue? digit with
      | some descriptor => readRedirection descriptor ('>' :: rest)
      | none => let (word, rest) := readWord fuel text; (.word word, rest)
    | _ => let (word, rest) := readWord fuel text; (.word word, rest)

/-- The tokens of a text from a line on. -/
def readTokens : Nat → Nat → List Char → List Located
  | 0, _, _ => []
  | _, _, [] => []
  | fuel + 1, line, character :: rest =>
    if character = ' ' ∨ character = '\t' then readTokens fuel line rest
    else if character = '#' then readTokens fuel line (rest.dropWhile (· != '\n'))
    else if character = '\\' ∧ rest.head? = some '\n' then readTokens fuel (line + 1) rest.tail
    else
      let (token, after) := readToken (fuel + 1) (character :: rest)
      let used := (character :: rest).take (rest.length + 1 - after.length)
      ⟨token, line⟩ :: readTokens fuel (line + used.count '\n') after

/-- The character of a part outside quotes. -/
def bareCharacter? : Part → Option Char
  | .bare character => some character
  | _ => none

/-- A word that is written without quotes and values. -/
def bareText? (word : Word) : Option String :=
  (word.mapM bareCharacter?).map String.ofList

/-- The keyword in front of tokens, if they begin with a word without quotes. -/
def keyword? : List Located → Option String
  | ⟨.word word, _⟩ :: _ => bareText? word
  | _ => none

/-- The sign in front of tokens. -/
def mark? : List Located → Option String
  | ⟨.mark text, _⟩ :: _ => some text
  | _ => none

/-- Tokens without the line ends and semicolons in front. -/
def skipSeparators (tokens : List Located) : List Located :=
  tokens.dropWhile fun located => [Token.mark "\n", .mark ";", .mark "&"].contains located.token

/-- What follows a keyword that has to come next. -/
def expectKeyword (keyword : String) (tokens : List Located) : Option (List Located) :=
  let tokens := skipSeparators tokens
  if keyword? tokens = some keyword then some tokens.tail else none

/-- The words that end a list of commands. -/
def closingWords : List String :=
  ["then", "elif", "else", "fi", "do", "done", "esac", "\x7d"]

/-- Whether a list of commands ends here. -/
def listEnds (tokens : List Located) : Bool :=
  tokens.isEmpty || [some ";;", some ")"].contains (mark? tokens)
    || (match keyword? tokens with
      | some word => closingWords.contains word
      | none => false)

/-- Split a word at the sign of an assignment, if it is one. -/
def assignment? (word : Word) : Option (String × Word) :=
  let name := word.takeWhile fun part => (bareCharacter? part).any isNameCharacter
  match bareText? name, word.drop name.length with
  | some text, .bare '=' :: value =>
    if text = "" ∨ text.toList.head?.any Char.isDigit then none else some (text, value)
  | _, _ => none

/-- The rest of a simple command. -/
def readSimple (command : Simple) : List Located → Simple × List Located
  | ⟨.word word, _⟩ :: rest =>
    match assignment? word, command.words with
    | some assignment, [] =>
      readSimple { command with assignments := command.assignments ++ [assignment] } rest
    | _, words => readSimple { command with words := words ++ [word] } rest
  | ⟨.copy descriptor other, _⟩ :: rest =>
    let redirection : Redirection := ⟨descriptor, .copy other⟩
    readSimple { command with redirections := command.redirections ++ [redirection] } rest
  | ⟨.redirect descriptor sign, _⟩ :: ⟨.word path, _⟩ :: rest =>
    let target := if sign = "<" then .input path else .file path (sign == ">>")
    let redirection : Redirection := ⟨descriptor, target⟩
    readSimple { command with redirections := command.redirections ++ [redirection] } rest
  | tokens => (command, tokens)

/-- Words up to the next sign. -/
def readWords : List Located → List Word × List Located
  | ⟨.word word, _⟩ :: rest =>
    let (words, rest) := readWords rest
    (word :: words, rest)
  | tokens => ([], tokens)

/-- The patterns of a choice, up to the closing parenthesis. -/
def readPatterns : List Located → Option (List Word × List Located)
  | ⟨.word word, _⟩ :: ⟨.mark ")", _⟩ :: rest => some ([word], rest)
  | ⟨.word word, _⟩ :: ⟨.mark "|", _⟩ :: rest =>
    (readPatterns rest).map fun (words, rest) => (word :: words, rest)
  | _ => none

mutual

/-- A list of commands. -/
def readList : Nat → List Located → Option (Command × List Located)
  | 0, _ => none
  | fuel + 1, tokens => do
    let tokens := skipSeparators tokens
    if listEnds tokens then
      return (.nothing, tokens)
    let (first, rest) ← readCommand fuel tokens
    let (first, rest) ← readJoined fuel first rest
    let (more, rest) ← readList fuel rest
    return (.sequence first more, rest)

/-- Commands that are joined to a first one. -/
def readJoined : Nat → Command → List Located → Option (Command × List Located)
  | 0, _, _ => none
  | fuel + 1, first, tokens =>
    match mark? tokens with
    | some "&&" => do
      let (second, rest) ← readCommand fuel (skipSeparators tokens.tail)
      readJoined fuel (.andThen first second) rest
    | some "||" => do
      let (second, rest) ← readCommand fuel (skipSeparators tokens.tail)
      readJoined fuel (.orElse first second) rest
    | _ => some (first, tokens)

/-- One command. -/
def readCommand : Nat → List Located → Option (Command × List Located)
  | 0, _ => none
  | fuel + 1, tokens =>
    match keyword? tokens with
    | some "if" => readBranch fuel tokens.tail
    | some "for" => readEach fuel tokens.tail
    | some "case" =>
      match tokens.tail with
      | ⟨.word subject, _⟩ :: rest => do readChoices fuel subject (← expectKeyword "in" rest)
      | _ => none
    | some "\x7b" => do
      let (body, rest) ← readList fuel tokens.tail
      return (body, ← expectKeyword "\x7d" rest)
    | some "!" => do
      let (body, rest) ← readCommand fuel tokens.tail
      return (.negated body, rest)
    | _ =>
      let line := (tokens.head?.map Located.line).getD 0
      let (command, rest) := readSimple ⟨line, [], [], []⟩ tokens
      if rest.length < tokens.length then some (.simple command, rest) else none

/-- What follows the keyword of a condition. -/
def readBranch : Nat → List Located → Option (Command × List Located)
  | 0, _ => none
  | fuel + 1, tokens => do
    let (test, rest) ← readList fuel tokens
    let (success, rest) ← readList fuel (← expectKeyword "then" rest)
    match keyword? rest with
    | some "elif" =>
      let (failure, rest) ← readBranch fuel rest.tail
      return (.branch test success failure, rest)
    | some "else" =>
      let (failure, rest) ← readList fuel rest.tail
      return (.branch test success failure, ← expectKeyword "fi" rest)
    | _ => return (.branch test success .nothing, ← expectKeyword "fi" rest)

/-- What follows the keyword of a loop. -/
def readEach : Nat → List Located → Option (Command × List Located)
  | 0, _ => none
  | fuel + 1, tokens => do
    let name ← keyword? tokens
    let (words, rest) := readWords (← expectKeyword "in" tokens.tail)
    let (body, rest) ← readList fuel (← expectKeyword "do" rest)
    return (.each name words body, ← expectKeyword "done" rest)

/-- The alternatives of a choice. -/
def readChoices : Nat → Word → List Located → Option (Command × List Located)
  | 0, _, _ => none
  | fuel + 1, subject, tokens =>
    let tokens := skipSeparators tokens
    if keyword? tokens = some "esac" then some (.nothing, tokens.tail)
    else do
      let tokens := if mark? tokens = some "(" then tokens.tail else tokens
      let (patterns, rest) ← readPatterns tokens
      let (body, rest) ← readList fuel rest
      let rest := if mark? rest = some ";;" then rest.tail else rest
      let (otherwise, rest) ← readChoices fuel subject rest
      return (.choice subject patterns body otherwise, rest)

end

/-- The command that the text of a script stands for. -/
def readScript (text : String) : Option Command :=
  let tokens := readTokens (text.length + 1) 1 text.toList
  match readList (4 * tokens.length + 4) tokens with
  | some (command, []) => some command
  | _ => none

end DeltaStudy.Script
