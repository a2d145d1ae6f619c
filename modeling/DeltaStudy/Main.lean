import DeltaStudy.Program.Conduct
import DeltaStudy.Report.Calendar
import Std.Time.DateTime.Timestamp

/-!
# The command line

The program on a real machine. Nothing is decided here: files, environment and
time are handed to the program, and what it prints is printed. Simulators are
scripts, carried out by the program itself.
-/

namespace DeltaStudy.CommandLine

/-- The number and the words of the system for an error. -/
def systemError? : IO.Error → Option (Nat × String)
  | .alreadyExists _ number words | .otherError number words | .resourceBusy number words
  | .resourceVanished number words | .unsupportedOperation number words
  | .hardwareFault number words | .unsatisfiedConstraints number words
  | .illegalOperation number words | .protocolError number words | .timeExpired number words
  | .interrupted _ number words | .noFileOrDirectory _ number words
  | .invalidArgument _ number words | .permissionDenied _ number words
  | .resourceExhausted _ number words | .inappropriateType _ number words
  | .noSuchThing _ number words => some (number.toNat, words)
  | .unexpectedEof | .userError _ => none

/-- The refusal that an error is. -/
def refusalOf (error : IO.Error) : SystemRefusal :=
  match systemError? error with
  | some (2, _) => .notFound
  | some (8, _) => .notProgram
  | some (13, _) => .permissionDenied
  | some (17, _) => .alreadyExists
  | some (20, _) => .notDirectory
  | some (21, _) => .isDirectory
  | some (number, words) => .other number words
  | none => .other 0 (toString error)

/-- Do something that the system may refuse. -/
def attempt {α : Type} (action : IO α) : IO (Except SystemRefusal α) := do
  try
    return .ok (← action)
  catch error =>
    return .error (refusalOf error)

/-- Whether there is something of a kind at a path. -/
def isOfKind (kind : IO.FS.FileType) (path : Path) : IO Bool := do
  let found ← attempt do
    return (← (← IO.FS.realPath path.text).metadata).type
  return match found with
    | .ok type => type == kind
    | .error _ => false

/-- The bytes of a file. -/
def readBytes (path : Path) : IO (Except SystemRefusal (List UInt8)) :=
  attempt do return (← IO.FS.readBinFile path.text).toList

/-- The paths of everything in a directory. -/
def entriesOf (directory : Path) : IO (List Path) := do
  let entries ← (← IO.FS.realPath directory.text).readDir
  return entries.toList.map fun entry => directory.join ⟨entry.fileName⟩

/-- The files with an extension in a directory, in the order of paths. -/
def listFiles (directory : Path) (extension : String) : IO (Except SystemRefusal (List Path)) :=
  attempt do
    let files ← (← entriesOf directory).filterM (isOfKind .file)
    let files := files.filter fun path => path.hasExtension extension
    return files.mergeSort fun left right => !right.precedes left

/-- Make one directory unless it is there. -/
def ensureOne (directory : Path) : IO (Option SystemRefusal) := do
  match ← attempt (IO.FS.createDir directory.text) with
  | .ok () => return none
  | .error refusal => return if ← isOfKind .dir directory then none else some refusal

/-- Make a directory. If something above it is missing, it is made first; the
directories above are given with the nearest one in front. -/
def ensureAll (directory : Path) : List Path → IO (Option SystemRefusal)
  | [] => ensureOne directory
  | nearest :: above => do
    match ← ensureOne directory with
    | some .notFound =>
      match ← ensureAll nearest above with
      | none => ensureOne directory
      | some refusal => return some refusal
    | result => return result

/-- The directories above a path, the nearest one in front. -/
def directoriesAbove (path : Path) : List Path :=
  let names := path.components.map fun
    | .root => ""
    | .current => "."
    | .parent => ".."
    | .name text => text
  let counts := (List.range names.length).reverse.filter (0 < ·)
  (counts.map fun count => Path.mk (Text.joined "/" (names.take count))).filter (·.text ≠ "")

/-- The files of the machine. -/
def disk : Storage IO where
  isFile := isOfKind .file
  read path := do
    match ← readBytes path with
    | .ok bytes => return .ok bytes
    | .error .notFound => return .error (.artifactNotFound path)
    | .error refusal => return .error (.unreadableArtifact path refusal)
  write path content := do
    let written ← attempt (IO.FS.writeBinFile path.text ⟨content.toArray⟩)
    return written.mapError (.unwrittenFile path)
  list directory extension := do
    return (← listFiles directory extension).mapError (.unlistedDirectory directory)
  makeDirectory directory := do
    if directory.text = "" then
      return .ok ()
    match ← ensureAll directory (directoriesAbove directory) with
    | none => return .ok ()
    | some refusal => return .error (.unmadeDirectory directory refusal)

/-- The bytes of a program. -/
def readProgram (path : Path) : IO (Except SystemRefusal (List UInt8)) := do
  if ← isOfKind .dir path then return .error .permissionDenied else readBytes path

/-- A variable that is written with its value. -/
def assignmentOf (entry : List UInt8) : String × String :=
  let text := (Text.decodeLeniently entry).toList
  let name := text.takeWhile (· != '=')
  (String.ofList name, String.ofList (text.drop (name.length + 1)))

/-- The variables of the environment. -/
def readEnvironment : IO Settings.Bindings := do
  match ← readBytes ⟨"/proc/self/environ"⟩ with
  | .ok bytes =>
    return ((Text.splitAt (· == 0) bytes).filter (!·.isEmpty)).map assignmentOf
  | .error _ => return []

/-- The number of processors. -/
def countProcessors : IO Nat := do
  match ← readBytes ⟨"/proc/cpuinfo"⟩ with
  | .ok bytes =>
    let lines := Text.splitAt (· == 10) bytes
    return max 1 (lines.countP fun line => (Text.encodeUtf8 "processor").isPrefixOf line)
  | .error _ => return 1

def machine : Program.Machine IO where
  storage := disk
  workingDirectory := return ⟨(← IO.currentDir).toString⟩
  environment := readEnvironment
  processors := countProcessors
  now := return .ofSeconds (← Std.Time.Timestamp.now).toSecondsSinceUnixEpoch.val.toNat
  start := Script.startProgram disk readProgram
  print := IO.print
  complain := IO.eprint
  tell event := IO.eprintln (event.level.name ++ ": " ++ event.message)

end DeltaStudy.CommandLine

/-- The program. -/
def main (arguments : List String) : IO UInt32 := do
  let code ← DeltaStudy.Program.conduct DeltaStudy.CommandLine.machine arguments
  return code.toUInt32
