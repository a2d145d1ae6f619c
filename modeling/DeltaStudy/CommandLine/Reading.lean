import DeltaStudy.Numeral.Reading
import DeltaStudy.Text.Split

/-!
# Reading arguments

A grammar for the arguments of a command: options by their long and short names,
one argument by its position, and commands that the remaining arguments belong
to. Arguments are taken one at a time.

A value is not looked at before the argument after it has been recognised, so of
two faults an unknown argument wins over the value in front of it, and otherwise
the earlier fault wins.
-/

namespace DeltaStudy.CommandLine

/-- Why arguments do not make a command, or why there is nothing to carry out. -/
inductive Problem where
  | helpAsked
  | versionAsked
  /-- There were no arguments at all. -/
  | nothingGiven
  /-- There was no command. -/
  | missingCommand
  /-- A command does not exist. -/
  | unknownCommand (name : String)
  /-- An argument does not exist. -/
  | unknownArgument (argument : String)
  /-- An option needs a value. -/
  | missingValue (option : String)
  /-- A value does not fit its option. -/
  | unfitValue (option value : String)
  /-- An option takes no value. -/
  | unwantedValue (option : String)
  /-- Two options exclude each other, or one was given twice. -/
  | conflict (first second : String)
  /-- A required argument is missing. -/
  | missingArgument (argument : String)
deriving DecidableEq, Repr

/-- The exit code for a problem. Asking for help or the version is none. -/
def Problem.exitCode : Problem → Nat
  | .helpAsked | .versionAsked => 0
  | _ => 2

/-- What an option takes. -/
inductive Shape where
  /-- Nothing; it may be given once. -/
  | switch
  /-- Nothing; how often it is given counts. -/
  | counter
  /-- Any text. -/
  | text
  /-- A path, which is not empty. -/
  | path
  /-- A number that 64 bits hold. -/
  | word
  /-- A number that 32 bits hold. -/
  | halfWord
  /-- Nothing; it asks for help. -/
  | help
  /-- Nothing; it asks for the version. -/
  | version
deriving DecidableEq, Repr

/-- Whether an option takes a value. -/
def Shape.takesValue : Shape → Bool
  | .text | .path | .word | .halfWord => true
  | _ => false

/-- An option or an argument by position. -/
structure Parameter where
  /-- The long name, which is also the name under which its value is kept. -/
  name : String
  /-- The short name, if there is one. -/
  short : Option Char
  /-- What it takes. -/
  shape : Shape
deriving DecidableEq, Repr

/-- The arguments that a command takes. -/
structure Grammar where
  options : List Parameter
  /-- The argument by position, if there is one. -/
  positional : Option Parameter
  /-- The commands that the remaining arguments belong to. -/
  commands : List String

/-- A value that has been read. -/
inductive Value where
  /-- A switch that is on. -/
  | on
  | number (value : Nat)
  | text (value : String)
deriving DecidableEq, Repr

/-- A parameter whose value has not been looked at. -/
structure Pending where
  parameter : Parameter
  /-- The text of its value, once there is one. -/
  text : Option String
deriving DecidableEq, Repr

/-- What is known of the arguments that have been taken. -/
structure Reading where
  /-- The values that have been read, by the names of their parameters. -/
  values : List (String × Value)
  /-- The parameter whose value comes next or has not been looked at. -/
  pending : Option Pending
  /-- Whether the argument by position has been given. -/
  positionalGiven : Bool
  /-- Whether only arguments by position can follow. -/
  optionsEnded : Bool
deriving DecidableEq, Repr

namespace Reading

/-- What is known before the first argument. -/
def initial : Reading := ⟨[], none, false, false⟩

/-- The value of a parameter. -/
def value? (reading : Reading) (name : String) : Option Value :=
  (reading.values.find? fun entry => entry.1 = name).map Prod.snd

/-- How often a counter was given. -/
def count (reading : Reading) (name : String) : Nat :=
  match reading.value? name with
  | some (.number count) => count
  | _ => 0

/-- Keep a value in place of the one before it. -/
def keep (reading : Reading) (name : String) (value : Value) : Reading :=
  { reading with values := (name, value) :: reading.values.filter fun entry => entry.1 ≠ name }

/-- Whether an option has been given whose value has not come yet. -/
def awaitsValue (reading : Reading) : Bool :=
  match reading.pending with
  | some pending => pending.text.isNone
  | none => false

end Reading

/-- The largest count that is kept. -/
def countLimit : Nat := 255

/-- Read a number that 32 bits hold. A minus sign may stand in front of zero. -/
def readHalfWord? (text : String) : Option Nat :=
  match text.toList with
  | '-' :: digits =>
    if Numeral.readNat? 1 (String.ofList digits) = some 0 ∧ digits.head? ≠ some '+' then some 0
    else none
  | _ => Numeral.readNat? (Numeral.twoTo 32) text

/-- Read the text of a value. -/
def readValue (parameter : Parameter) (text : String) : Except Problem Value :=
  let unfit := Except.error (Problem.unfitValue parameter.name text)
  match parameter.shape with
  | .path => if text = "" then .error (.missingValue parameter.name) else .ok (.text text)
  | .word =>
    match Numeral.readWord? text with
    | some value => .ok (.number value.toNat)
    | none => unfit
  | .halfWord =>
    match readHalfWord? text with
    | some value => .ok (.number value)
    | none => unfit
  | _ => .ok (.text text)

/-- Give a parameter its value. No parameter takes two values. -/
def settle (reading : Reading) (parameter : Parameter) (text : String) :
    Except Problem Reading := do
  if (reading.value? parameter.name).isSome then
    throw (.conflict parameter.name parameter.name)
  return reading.keep parameter.name (← readValue parameter text)

/-- Look at the value that has not been looked at. -/
def resolve (reading : Reading) : Except Problem Reading :=
  match reading.pending with
  | none => .ok reading
  | some ⟨parameter, none⟩ => .error (.missingValue parameter.name)
  | some ⟨parameter, some text⟩ => settle { reading with pending := none } parameter text

/-- Take an option that takes no value. -/
def takeSwitch (reading : Reading) (parameter : Parameter) : Except Problem Reading := do
  let reading ← resolve reading
  match parameter.shape with
  | .help => throw .helpAsked
  | .version => throw .versionAsked
  | .counter =>
    let count := min countLimit (reading.count parameter.name + 1)
    return reading.keep parameter.name (.number count)
  | _ =>
    if (reading.value? parameter.name).isSome then
      throw (.conflict parameter.name parameter.name)
    return reading.keep parameter.name .on

/-- Take an option that takes a value, with the value if it is attached. -/
def takeOption (reading : Reading) (parameter : Parameter) (attached : Option String) :
    Except Problem Reading := do
  let reading ← resolve reading
  match attached with
  | some text => settle reading parameter text
  | none => return { reading with pending := some ⟨parameter, none⟩ }

/-- Take a long option, given without the dashes. -/
def takeLong (grammar : Grammar) (reading : Reading) (argument : List Char) :
    Except Problem Reading :=
  let name := String.ofList (argument.takeWhile (· != '='))
  let attached := if argument.contains '=' then
      some (String.ofList ((argument.dropWhile (· != '=')).drop 1)) else none
  match grammar.options.find? fun option => option.name = name with
  | none => .error (.unknownArgument ("--" ++ name))
  | some parameter =>
    if parameter.shape.takesValue then takeOption reading parameter attached
    else if attached.isSome then .error (.unwantedValue parameter.name)
    else takeSwitch reading parameter

/-- What follows a short option in the same argument as its value. -/
def attachedValue : List Char → Option String
  | [] => none
  | '=' :: value => some (String.ofList value)
  | value => some (String.ofList value)

/-- Take short options that are written together, given without the dash. -/
def takeShort (grammar : Grammar) : Reading → List Char → Except Problem Reading
  | reading, [] => .ok reading
  | reading, letter :: rest =>
    match grammar.options.find? fun option => option.short = some letter with
    | none => .error (.unknownArgument ("-" ++ String.singleton letter))
    | some parameter =>
      if parameter.shape.takesValue then takeOption reading parameter (attachedValue rest)
      else do takeShort grammar (← takeSwitch reading parameter) rest

/-- Take an argument by position. -/
def takePositional (grammar : Grammar) (reading : Reading) (argument : String) :
    Except Problem Reading :=
  match grammar.positional, reading.positionalGiven with
  | some parameter, false => do
    let reading ← resolve reading
    return { reading with pending := some ⟨parameter, some argument⟩, positionalGiven := true }
  | _, _ =>
    if grammar.commands.isEmpty || (reading.optionsEnded && grammar.commands.contains argument) then
      .error (.unknownArgument argument)
    else
      .error (.unknownCommand argument)

def takeArgument (grammar : Grammar) (reading : Reading) (argument : String) :
    Except Problem Reading :=
  if reading.optionsEnded then takePositional grammar reading argument
  else
    match argument.toList, reading.pending with
    | ['-', '-'], _ => .ok { reading with optionsEnded := true }
    | '-' :: '-' :: option, _ => takeLong grammar reading option
    | '-' :: letter :: letters, _ => takeShort grammar reading (letter :: letters)
    | _, some ⟨parameter, none⟩ =>
      .ok { reading with pending := some ⟨parameter, some argument⟩ }
    | _, _ => takePositional grammar reading argument

/-- Whether an argument names a command here. -/
def namesCommand (grammar : Grammar) (reading : Reading) (argument : String) : Bool :=
  !reading.optionsEnded && !reading.awaitsValue && grammar.commands.contains argument

/-- Take arguments up to the name of a command. The result holds the name and
the arguments after it, if there is one. -/
def takeArguments (grammar : Grammar) :
    Reading → List String → Except Problem (Reading × Option (String × List String))
  | reading, [] => do return (← resolve reading, none)
  | reading, argument :: rest =>
    if namesCommand grammar reading argument then .ok (reading, some (argument, rest))
    else do takeArguments grammar (← takeArgument grammar reading argument) rest

end DeltaStudy.CommandLine
