import DeltaStudy.CommandLine.Reading
import DeltaStudy.Text.Lines

/-!
# Help

What the program says about its arguments: how it is called, its version, and
what is wrong with arguments that it does not take.
-/

namespace DeltaStudy.CommandLine

def programName : String := "dsweep"

/-- The version of the program. -/
def version : String := "0.1.0"

/-- How the program is called. -/
def helpLines : List String :=
  [ "Δ/T sweeps of a blockchain simulator, with difficulty charts"
  , ""
  , "Usage: " ++ programName ++ " [-v | -q]... COMMAND [OPTION]..."
  , ""
  , "Commands:"
  , "  run      Run the simulator once per Δ/T value"
  , "             --protocol TAG, --protocols JSON, --delta-values LIST, --num-nodes N"
  , "             --end-round N, --generation-time MS, --max-workers N or --serial"
  , "             --simulator PATH, --output-dir DIR"
  , "  plot     Chart one artifact and print its statistics"
  , "             CSV, -w or --window N, -l or --log-scale, -o or --output SVG"
  , "  compare  Chart the difficulty of several artifacts"
  , "             --protocol TAG, --deltas LIST or --scan, --data-dir DIR"
  , "             -w or --window N, -l or --log-scale, --no-mining-time, --no-reference"
  , "             -o or --output SVG"
  , "  help     Print this"
  , ""
  , "Options:"
  , "  -v, --verbose  More diagnostic output"
  , "  -q, --quiet    Less diagnostic output"
  , "  -h, --help     Print this"
  , "  -V, --version  Print the version" ]

/-- How the program is called, as one text. -/
def helpText : String := Text.written helpLines

namespace Problem

/-- What is wrong, in one line. -/
def complaint : Problem → String
  | .helpAsked => "help was asked for"
  | .versionAsked => "the version was asked for"
  | .nothingGiven => "there are no arguments"
  | .missingCommand => "there is no command"
  | .unknownCommand name => "there is no command '" ++ name ++ "'"
  | .unknownArgument argument => "unexpected argument '" ++ argument ++ "'"
  | .missingValue option => "'" ++ option ++ "' needs a value"
  | .unfitValue option value => "'" ++ option ++ "' cannot be '" ++ value ++ "'"
  | .unwantedValue option => "'" ++ option ++ "' takes no value"
  | .conflict first second => "'" ++ first ++ "' and '" ++ second ++ "' exclude each other"
  | .missingArgument argument => "'" ++ argument ++ "' is missing"

/-- What the program writes to its output because of a problem. -/
def output : Problem → String
  | .helpAsked => helpText
  | .versionAsked => programName ++ " " ++ version ++ "\n"
  | _ => ""

/-- What the program writes to its error output because of a problem. -/
def errorOutput : Problem → String
  | .helpAsked | .versionAsked => ""
  | .nothingGiven => helpText
  | problem => "error: " ++ problem.complaint ++ "\n\n" ++ helpText

end Problem

end DeltaStudy.CommandLine
