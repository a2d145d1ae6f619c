import DeltaStudy.Script.Reader
import DeltaStudy.Script.Session

/-!
# Programs

Starting a program by its name. A name with a slash is the path of the program;
any other name is looked for in the places of the search path. A program is a
script whose first line names a command interpreter; it runs against a storage
and leaves a status and what it wrote.
-/

namespace DeltaStudy.Script

/-- What a program leaves behind. -/
structure Finished where
  /-- The status, unless a signal ended the program. -/
  status : Option Nat
  /-- What was written to the output. -/
  stdout : String
  /-- What was written to the error output. -/
  stderr : String
deriving DecidableEq, Repr

def Ending.status? : Ending → Option Nat
  | .exited status => some status
  | .killed => none

/-- What a session leaves behind. -/
def Session.finished (session : Session) : Finished :=
  ⟨session.outcome.status?, session.stdout, session.stderr⟩

/-- The words of the line that names the interpreter of a script. -/
def interpreterWords? : List Char → Option (List String)
  | '#' :: '!' :: text =>
    let line := text.takeWhile (· != '\n')
    let words := (Text.splitAt (fun character => character == ' ' || character == '\t') line).map
      String.ofList
    some (words.filter (· != ""))
  | _ => none

/-- The programs that carry out command lists. -/
def interpreters : List Path :=
  [⟨"/bin/sh"⟩, ⟨"/bin/bash"⟩, ⟨"/bin/dash"⟩, ⟨"/usr/bin/sh"⟩, ⟨"/usr/bin/bash"⟩, ⟨"/usr/bin/dash"⟩]

/-- Whether the first words of a script name an interpreter of command lists,
directly or to be looked for. -/
def namesInterpreter : List String → Bool
  | "/usr/bin/env" :: name :: _ => ["sh", "bash", "dash"].contains name
  | program :: _ => interpreters.contains ⟨program⟩
  | [] => false

variable {m : Type → Type} [Monad m]

/-- Carry out the text of a script. -/
def runText (storage : Storage m) (name : String) (bindings : Settings.Bindings)
    (arguments : List String) (text : String) : m Finished := do
  match readScript text with
  | none => return ⟨some 2, "", name ++ ": 1: Syntax error\n"⟩
  | some command =>
    let session ← run storage command (.start name arguments bindings)
    return session.finished

/-- Start the program that these bytes are. -/
def startBytes (storage : Storage m) (name : String) (bindings : Settings.Bindings)
    (arguments : List String) (bytes : List UInt8) : m (Except SystemRefusal Finished) := do
  let text := Text.decodeLeniently bytes
  match interpreterWords? text.toList with
  | none | some [] => return .error .notProgram
  | some words =>
    if namesInterpreter words then
      return .ok (← runText storage name bindings arguments text)
    else
      return .error .notFound

/-- Look for a name in one place after the other. A file that may not be started
is passed over, but remembered as the reason if nothing else is found. -/
def searchPlaces {α : Type} (look : Path → m (Except SystemRefusal α)) (name : String) :
    SystemRefusal → List Path → m (Except SystemRefusal (Path × α))
  | refusal, [] => return .error refusal
  | refusal, place :: rest => do
    let path := place.join ⟨name⟩
    match ← look path with
    | .ok found => return .ok (path, found)
    | .error .permissionDenied => searchPlaces look name .permissionDenied rest
    | .error _ => searchPlaces look name refusal rest

/-- Find a program. The empty name names nothing. -/
def findProgram {α : Type} (look : Path → m (Except SystemRefusal α)) (places : List Path)
    (program : Path) : m (Except SystemRefusal (Path × α)) := do
  if program.text = "" then
    return .error .notFound
  else if program.text.toList.contains '/' then
    return (← look program).map fun found => (program, found)
  else
    searchPlaces look program.text .notFound places

/-- The search path unless another one is bound. -/
def defaultSearchPath : String := "/usr/local/bin:/usr/bin:/bin"

/-- The places of the search path. -/
def placesOf (bindings : Settings.Bindings) : List Path :=
  let text := (Settings.valueIn bindings "PATH").getD defaultSearchPath
  (Text.splitAt (· == ':') text.toList).map fun place => ⟨String.ofList place⟩

/-- Find a program and start it. `look` gives the bytes of a program that may be
started. -/
def startProgram (storage : Storage m) (look : Path → m (Except SystemRefusal (List UInt8)))
    (program : Path) (bindings : Settings.Bindings) (arguments : List String) :
    m (Except SystemRefusal Finished) := do
  match ← findProgram look (placesOf bindings) program with
  | .error refusal => return .error refusal
  | .ok (path, bytes) => startBytes storage path.text bindings arguments bytes

end DeltaStudy.Script
