import DeltaStudy.Numeral.Reading
import DeltaStudy.Script.Command
import DeltaStudy.Settings.Bindings
import DeltaStudy.Storage.Requests
import DeltaStudy.Text.Utf8

/-!
# Sessions

Carrying out the command of a script against a storage. A session collects what
the script writes to its two outputs and ends with a status or by a signal that
the script sends to itself.

Every command is made of smaller ones and loops run over words that are known
beforehand, so each session ends.
-/

namespace DeltaStudy.Script

/-- How a script ends. -/
inductive Ending where
  /-- With a status. -/
  | exited (status : Nat)
  /-- Through a signal. -/
  | killed
deriving DecidableEq, Repr

/-- What is known while a script runs. -/
structure Session where
  /-- The name that the script was started under. -/
  name : String
  arguments : List String
  /-- The values of the variables. -/
  bindings : Settings.Bindings
  /-- The status of the latest command. -/
  status : Nat
  /-- How the script ended, once it has. -/
  ending : Option Ending
  /-- What was written to the output. -/
  stdout : String
  /-- What was written to the error output. -/
  stderr : String
deriving DecidableEq

namespace Session

/-- A session before its first command. -/
def start (name : String) (arguments : List String) (bindings : Settings.Bindings) : Session :=
  ⟨name, arguments, bindings, 0, none, "", ""⟩

/-- The number under which a script knows itself. -/
def ownNumber : String := "1"

/-- The value of a parameter; one that has none is empty. -/
def parameter (session : Session) (name : String) : String :=
  match name with
  | "@" | "*" => Text.joined " " session.arguments
  | "#" => Numeral.decimalText session.arguments.length
  | "?" => Numeral.decimalText session.status
  | "$" => ownNumber
  | "0" => session.name
  | _ =>
    match name.toList.mapM Numeral.digitValue? with
    | some _ => (session.arguments[Numeral.valueOfDigits name.toList - 1]?).getD ""
    | none => (Settings.valueIn session.bindings name).getD ""

/-- The value of a parameter, with a pattern taken off if one is given. -/
def valueOf (session : Session) (name : String) (trim : Option (Trim × Pattern)) : List Char :=
  let text := (session.parameter name).toList
  match trim with
  | some (trim, pattern) => trim.apply pattern text
  | none => text

/-- The text of a word as a whole. -/
def textOf (session : Session) (word : Word) : String :=
  String.ofList (word.flatMap fun
    | .bare character => [character]
    | .quoted text => text
    | .value _ name trim => session.valueOf name trim)

/-- The pattern of a word. Only what stands outside quotes has a meaning of its
own. -/
def patternOf (session : Session) (word : Word) : Pattern :=
  word.flatMap fun
    | .bare character => [atomOf character]
    | .quoted text => text.map Atom.exactly
    | .value true name trim => (session.valueOf name trim).map Atom.exactly
    | .value false name trim => (session.valueOf name trim).map atomOf

/-- The fields of a word so far: the complete ones, and the one that is open. -/
structure Fields where
  /-- The complete fields. -/
  complete : List (List Char)
  /-- The field that is open, if one is. -/
  current : Option (List Char)

/-- Add characters to the open field. -/
def Fields.extend (fields : Fields) (characters : List Char) : Fields :=
  { fields with current := some (fields.current.getD [] ++ characters) }

/-- Complete the open field. -/
def Fields.close (fields : Fields) : Fields :=
  ⟨fields.complete ++ fields.current.toList, none⟩

/-- Add a value outside quotes, which blanks part into fields. -/
def Fields.addSplit (fields : Fields) (characters : List Char) : Fields :=
  characters.foldl
    (fun fields character =>
      if [' ', '\t', '\n'].contains character then fields.close else fields.extend [character])
    fields

/-- Add the arguments of the script, each as a field of its own. -/
def Fields.addArguments (fields : Fields) : List String → Fields
  | [] => fields
  | [last] => fields.extend last.toList
  | first :: rest => ((fields.extend first.toList).close).addArguments rest

/-- Add a part of a word. -/
def addPart (session : Session) (fields : Fields) : Part → Fields
  | .bare character => fields.extend [character]
  | .quoted text => fields.extend text
  | .value true "@" none => fields.addArguments session.arguments
  | .value true name trim => fields.extend (session.valueOf name trim)
  | .value false name trim => fields.addSplit (session.valueOf name trim)

/-- Whether a word is nothing but the quoted arguments of the script. -/
def isOnlyArguments (word : Word) : Bool :=
  word.contains (.value true "@" none)
    && word.all fun part => part == .quoted [] || part == .value true "@" none

/-- The fields of a word. Quoted arguments are no field at all if there are
none. -/
def fieldsOf (session : Session) (word : Word) : List String :=
  let word := if isOnlyArguments word then word.filter (· != .quoted []) else word
  ((word.foldl session.addPart ⟨[], none⟩).close.complete).map String.ofList

/-- Set a variable. -/
def assign (session : Session) (name value : String) : Session :=
  { session with bindings := Settings.rebind session.bindings name value }

end Session

/-- What a command without parts leaves behind. -/
structure Effect where
  status : Nat
  /-- What it writes to the output. -/
  output : String
  /-- What it writes to the error output. -/
  complaint : String
  /-- How it ends the script, if it does. -/
  ending : Option Ending

/-- An effect that is nothing but a status. -/
def Effect.ofStatus (status : Nat) : Effect := ⟨status, "", "", none⟩

/-- An effect that is nothing but output. -/
def Effect.ofOutput (output : String) : Effect := ⟨0, output, "", none⟩

/-- A complaint of a script about one of its lines. -/
def complaintText (session : Session) (line : Nat) (text : String) : String :=
  session.name ++ ": " ++ Numeral.decimalText line ++ ": " ++ text ++ "\n"

/-- The character that a backslash makes of a letter. -/
def escapedCharacter? : Char → Option Char
  | 'n' => some '\n'
  | 't' => some '\t'
  | 'r' => some '\r'
  | '\\' => some '\\'
  | _ => none

/-- A text with its backslashes resolved. -/
def unescaped : List Char → List Char
  | '\\' :: letter :: rest =>
    match escapedCharacter? letter with
    | some character => character :: unescaped rest
    | none => '\\' :: letter :: unescaped rest
  | character :: rest => character :: unescaped rest
  | [] => []

/-- Fill a format with arguments, and what is left of them. -/
def fillFormat : List Char → List String → List Char × List String
  | '%' :: '%' :: rest, arguments =>
    let (text, arguments) := fillFormat rest arguments
    ('%' :: text, arguments)
  | '%' :: _ :: rest, arguments =>
    let (text, left) := fillFormat rest arguments.tail
    ((arguments.head?.getD "").toList ++ text, left)
  | '\\' :: '"' :: rest, arguments =>
    let (text, arguments) := fillFormat rest arguments
    ('"' :: text, arguments)
  | '\\' :: letter :: rest, arguments =>
    let (text, arguments) := fillFormat rest arguments
    match escapedCharacter? letter with
    | some character => (character :: text, arguments)
    | none => ('\\' :: letter :: text, arguments)
  | character :: rest, arguments =>
    let (text, arguments) := fillFormat rest arguments
    (character :: text, arguments)
  | [], arguments => ([], arguments)

/-- Fill a format again and again until the arguments are used up. -/
def fillRepeatedly (format : List Char) : Nat → List String → List Char
  | 0, _ => []
  | fuel + 1, arguments =>
    let (text, left) := fillFormat format arguments
    if left.isEmpty || left.length = arguments.length then text
    else text ++ fillRepeatedly format fuel left

/-- Whether 64 bits hold a number with its sign. -/
def fitsWord (value : Int) : Bool :=
  let bound := Int.ofNat (Numeral.twoTo 63)
  value < bound && value ≥ -bound

/-- Read an integer with an optional sign that 64 bits hold. -/
def integer? (text : String) : Option Int :=
  let (negative, digits) := Numeral.splitSign text.toList
  if digits.isEmpty || !digits.all Numeral.isDigit then none
  else
    let magnitude : Int := Numeral.valueOfDigits digits
    let value := if negative then -magnitude else magnitude
    if fitsWord value then some value else none

/-- The comparisons of integers by their names. -/
def comparison? : String → Option (Int → Int → Bool)
  | "-eq" => some fun left right => left == right
  | "-ne" => some fun left right => left != right
  | "-lt" => some fun left right => left < right
  | "-le" => some fun left right => left ≤ right
  | "-gt" => some fun left right => left > right
  | "-ge" => some fun left right => left ≥ right
  | _ => none

/-- The result of a test, or the word that should be a number. -/
def judge (arguments : List String) : Except String Bool :=
  match arguments with
  | [] => .ok false
  | [text] => .ok (text != "")
  | ["-n", text] => .ok (text != "")
  | ["-z", text] => .ok (text == "")
  | ["!", text] => .ok (text == "")
  | [left, "=", right] => .ok (left == right)
  | [left, "!=", right] => .ok (left != right)
  | [left, operator, right] =>
    match comparison? operator, integer? left, integer? right with
    | some compare, some left, some right => .ok (compare left right)
    | some _, none, _ => .error left
    | some _, _, none => .error right
    | none, _, _ => .ok false
  | _ => .ok false

def testEffect (session : Session) (line : Nat) (name : String) (arguments : List String) :
    Effect :=
  match judge arguments with
  | .ok result => .ofStatus (if result then 0 else 1)
  | .error word =>
    ⟨2, "", complaintText session line (name ++ ": Illegal number: " ++ word), none⟩

/-- The effect of a command by its name and arguments. -/
def effectOf (session : Session) (line : Nat) (name : String) (arguments : List String) :
    Effect :=
  match name, arguments with
  | ":", _ | "true", _ | "sleep", _ | "set", _ => .ofStatus 0
  | "false", _ => .ofStatus 1
  | "echo", "-n" :: rest =>
    .ofOutput (String.ofList (unescaped (Text.joined " " rest).toList))
  | "echo", _ =>
    .ofOutput (String.ofList (unescaped (Text.joined " " arguments).toList) ++ "\n")
  | "printf", format :: rest =>
    .ofOutput (String.ofList (fillRepeatedly format.toList (rest.length + 1) rest))
  | "exit", [] => ⟨session.status, "", "", some (.exited session.status)⟩
  | "exit", status :: _ =>
    let status := ((integer? status).getD 2 % 256).toNat
    ⟨status, "", "", some (.exited status)⟩
  | "kill", _ =>
    if arguments.getLast? = some Session.ownNumber then ⟨0, "", "", some .killed⟩ else .ofStatus 1
  | "test", _ => testEffect session line name arguments
  | "[", _ => testEffect session line name arguments.dropLast
  | _, _ => ⟨127, "", complaintText session line (name ++ ": not found"), none⟩

/-- Where what is written to a descriptor goes. -/
inductive Sink where
  /-- To the output of the script. -/
  | output
  /-- To the error output of the script. -/
  | complaints
  | file (path : Path)
  | nowhere
deriving DecidableEq, Repr

/-- The sinks of descriptors, the latest in front. -/
abbrev Sinks := List (Nat × Sink)

/-- The sink of a descriptor. -/
def sinkOf (sinks : Sinks) (descriptor : Nat) : Sink :=
  ((sinks.find? fun entry => entry.1 = descriptor).map Prod.snd).getD .nowhere

/-- What a script complains of when a file cannot be written. -/
def createText : Failure → String
  | .unwrittenFile _ .notFound | .unwrittenFile _ .notDirectory => "Directory nonexistent"
  | .unwrittenFile _ .isDirectory => "Is a directory"
  | failure => failure.message

section

variable {m : Type → Type} [Monad m]

/-- Open a file for writing. -/
def openFile (storage : Storage m) (path : Path) (append : Bool) : m (Except Failure Unit) := do
  let kept ← if append then storage.read path else pure (.ok [])
  storage.write path (match kept with
    | .ok content => content
    | .error _ => [])

/-- Carry out redirections, or complain of the first that fails. -/
def redirect (storage : Storage m) (session : Session) (line : Nat) :
    Sinks → List Redirection → m (Except String Sinks)
  | sinks, [] => return .ok sinks
  | sinks, ⟨descriptor, .copy other⟩ :: rest =>
    redirect storage session line ((descriptor, sinkOf sinks other) :: sinks) rest
  | sinks, ⟨_, .input _⟩ :: rest => redirect storage session line sinks rest
  | sinks, ⟨descriptor, .file word append⟩ :: rest => do
    let path : Path := ⟨session.textOf word⟩
    if path.text = "/dev/null" then
      redirect storage session line ((descriptor, .nowhere) :: sinks) rest
    else
      match ← openFile storage path append with
      | .ok () => redirect storage session line ((descriptor, .file path) :: sinks) rest
      | .error failure =>
        let reason := "cannot create " ++ path.text ++ ": " ++ createText failure
        return .error (complaintText session line reason)

/-- Write to a sink. -/
def emit (storage : Storage m) (session : Session) (sink : Sink) (text : String) : m Session := do
  match sink with
  | .output => return { session with stdout := session.stdout ++ text }
  | .complaints => return { session with stderr := session.stderr ++ text }
  | .nowhere => return session
  | .file path =>
    if text ≠ "" then
      match ← storage.read path with
      | .ok content =>
        let _ ← storage.write path (content ++ Text.encodeUtf8 text)
      | .error _ => pure ()
    return session

/-- Carry out a simple command. Assignments in front of a command name are not
kept. -/
def runSimple (storage : Storage m) (command : Simple) (session : Session) : m Session := do
  let assigned := command.assignments.foldl
    (fun session (name, word) => session.assign name (session.textOf word)) session
  let start : Sinks := [(1, .output), (2, .complaints)]
  match ← redirect storage session command.line start command.redirections with
  | .error complaint =>
    return { session with status := 2, stderr := session.stderr ++ complaint }
  | .ok sinks =>
    match command.words.flatMap session.fieldsOf with
    | [] => return { assigned with status := 0 }
    | name :: arguments =>
      let effect := effectOf session command.line name arguments
      let written ← emit storage session (sinkOf sinks 1) effect.output
      let written ← emit storage written (sinkOf sinks 2) effect.complaint
      return { written with status := effect.status, ending := effect.ending }

/-- Carry out a command, unless the script has ended. -/
def run (storage : Storage m) : Command → Session → m Session
  | .nothing, session => return session
  | .simple command, session =>
    if session.ending.isSome then return session else runSimple storage command session
  | .sequence first second, session => do
    run storage second (← run storage first session)
  | .andThen first second, session => do
    let session ← run storage first session
    if session.status = 0 then run storage second session else return session
  | .orElse first second, session => do
    let session ← run storage first session
    if session.status = 0 then return session else run storage second session
  | .negated command, session => do
    let session ← run storage command session
    return { session with status := if session.status = 0 then 1 else 0 }
  | .branch test success failure, session => do
    let session ← run storage test session
    if session.status = 0 then run storage success session
    else run storage failure { session with status := 0 }
  | .each name words body, session =>
    (words.flatMap session.fieldsOf).foldlM
      (fun session field => run storage body (session.assign name field)) session
  | .choice subject patterns body otherwise, session => do
    let text := (session.textOf subject).toList
    if patterns.any fun pattern => matchesText (session.patternOf pattern) text then
      run storage body { session with status := 0 }
    else
      run storage otherwise session

end

/-- How a script ended that has no more commands. -/
def Session.outcome (session : Session) : Ending :=
  session.ending.getD (.exited session.status)

end DeltaStudy.Script
