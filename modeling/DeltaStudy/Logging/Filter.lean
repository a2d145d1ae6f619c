import DeltaStudy.Event
import DeltaStudy.Numeral.Digits
import DeltaStudy.Text.Split

/-!
# Logging filters

Which events are shown. A filter is a list of directives, each of which sets the
least important level that is shown for some source of events. A directive names
its source by how the source begins, or holds for all sources; of several that
hold the one with the longest name counts, and of equally long ones the last.
-/

namespace DeltaStudy.Logging

/-- The source of the events of a study. -/
def sourceName : String := "delay_sweep"

/-- A directive of a filter. -/
structure Directive where
  /-- How the sources begin that the directive holds for. -/
  source : String
  /-- The least important level that is shown, or none if nothing is. -/
  level : Option Level
deriving DecidableEq, Repr

abbrev Filter := List Directive

/-- Whether a level is shown where another one is the least important. -/
def isShown (least : Option Level) (level : Level) : Bool :=
  match least with
  | some least => decide (level.rank ≤ least.rank)
  | none => false

/-- Whether a directive holds for the events of a study. -/
def Directive.holds (directive : Directive) : Bool :=
  directive.source.toList.isPrefixOf sourceName.toList

/-- The more specific of two directives, the second one if they are equally
specific. -/
def moreSpecific (current : Option Directive) (directive : Directive) : Option Directive :=
  match current with
  | some other => if directive.source.length < other.source.length then some other else some directive
  | none => some directive

/-- Whether a filter shows events of a level. -/
def Filter.shows (filter : Filter) (level : Level) : Bool :=
  match (filter.filter Directive.holds).foldl moreSpecific none with
  | some directive => isShown directive.level level
  | none => false

/-- The level for the number of times that more or less output was asked for. -/
def levelFor (verbosity : Int) : Level :=
  if verbosity ≤ -2 then .error
  else if verbosity = -1 then .warn
  else if verbosity = 0 then .info
  else if verbosity = 1 then .debug
  else .trace

def Filter.ofVerbosity (verbosity : Int) : Filter :=
  [⟨sourceName, some (levelFor verbosity)⟩]

/-- The names of levels, among them that of showing nothing. -/
def levelNames : List (String × Option Level) :=
  [ ("off", none), ("error", some .error), ("warn", some .warn), ("info", some .info)
  , ("debug", some .debug), ("trace", some .trace) ]

/-- Read a level by its name in any letter case, or by its place among the
names. -/
def readLevel? (text : String) : Option (Option Level) :=
  match levelNames.find? fun entry => Text.equalIgnoringCase entry.1 text with
  | some (_, level) => some level
  | none =>
    match text.toList with
    | [digit] => do
      let entry ← levelNames[← Numeral.digitValue? digit]?
      return entry.2
    | _ => none

/-- Whether a text can name a source. -/
def isSourceName (text : String) : Bool :=
  text != "" && text.toList.all fun character =>
    character.isAlphanum || character == '_' || character == ':' || character == '-'

/-- Read a directive: a level, a source, or a source with a level. A source
without a level shows everything. -/
def readDirective? (text : String) : Option Directive :=
  match (Text.splitAt (· == '=') text.toList).map String.ofList with
  | [whole] =>
    match readLevel? whole with
    | some level => some ⟨"", level⟩
    | none => if isSourceName whole then some ⟨whole, some .trace⟩ else none
  | [source, level] =>
    if !isSourceName source then none
    else if level = "" then some ⟨source, some .trace⟩
    else (readLevel? level).map fun level => ⟨source, level⟩
  | _ => none

/-- Read a filter. Directives are parted by commas; without any directive only
errors are shown. -/
def readFilter? (text : String) : Option Filter := do
  let pieces := (Text.splitAt (· == ',') text.toList).map String.ofList
  let directives ← (pieces.filter (· != "")).mapM readDirective?
  return if directives.isEmpty then [⟨"", some .error⟩] else directives

/-- The filter of a program: the one that its environment asks for if that can
be read, else the one for its verbosity. -/
def chosenFilter (asked : Option String) (verbosity : Int) : Filter :=
  (asked.bind readFilter?).getD (.ofVerbosity verbosity)

end DeltaStudy.Logging
