import Gleaner.CommandLine.Environment
import Gleaner.CommandLine.Request
import Gleaner.CommandLine.Settings
import Gleaner.Text.Case

/-!
# Setting up the log

Verbosity overrides the settings, the environment overrides both, and being quiet overrides
everything. What cannot be set up is noted and otherwise ignored.
-/

namespace Gleaner.CommandLine

namespace LogSettings

/-- Override settings by the environment; what is given besides is a note on a layout that is
unknown. -/
def override (e : Environment) (settings : LogSettings) : LogSettings × String :=
  let settings := match e.get? Environment.logLevelName with
    | some level => { settings with level }
    | none => settings
  let (settings, note) := match e.get? Environment.logFormatName with
    | none => (settings, "")
    | some name =>
      match LogFormat.names.lookup (Text.toLower name) with
      | some format => ({ settings with format }, "")
      | none =>
        (settings, "Invalid log format '" ++ name ++ "', using " ++ settings.format.title ++ "\n")
  match e.get? Environment.logConsoleName with
  | some value =>
    ({ settings with console := value.map Char.toLower = "true" || value = "1" }, note)
  | none => (settings, note)

/-- The settings that hold for a request. -/
def ofRequest (r : Request) (e : Environment) (settings : LogSettings) : LogSettings × String :=
  let verbosity := r.effectiveVerbosity
  let (settings, note) := override e (if 0 < verbosity then ofVerbosity verbosity else settings)
  if r.quiet then ({ settings with level := "error", console := false }, note) else (settings, note)

/-! ### Filters

A filter is a list of directives between commas, each a level, a target or both.
-/

def isLevel (name : List Char) : Bool :=
  let name := name.map Char.toLower
  ["off", "error", "warn", "info", "debug", "trace", "0", "1", "2", "3", "4", "5"].any
    fun level => level.toList = name

def isTargetChar (c : Char) : Bool :=
  Text.Property.word.holds c || c = ':' || c = '-'

def isDirective (text : List Char) : Bool :=
  let target := text.takeWhile (· ≠ '=')
  !target.isEmpty && target.all isTargetChar &&
    match text.dropWhile (· ≠ '=') with
    | _ :: level => level.isEmpty || isLevel level
    | [] => true

def splitCommas : List Char → List (List Char)
  | [] => [[]]
  | c :: rest =>
    if c = ',' then [] :: splitCommas rest
    else
      match splitCommas rest with
      | [] => [[c]]
      | part :: parts => (c :: part) :: parts

def isFilter (text : String) : Bool :=
  ((splitCommas text.toList).filter fun part => !part.isEmpty).all isDirective

/-- What is wrong with the filters of some settings. -/
def problem? (settings : LogSettings) : Option Problem :=
  if !isFilter settings.level then
    some (.configuration
      ("Invalid log level '" ++ settings.level ++ "': invalid filter directive"))
  else if (settings.moduleFilter.getD []).all fun (name, level) =>
      isDirective (name ++ "=" ++ level).toList then none
  else some (.configuration "Invalid filter directive: invalid filter directive")

/-- The notes on setting up the log. -/
def notes (r : Request) (e : Environment) (settings : LogSettings) : String :=
  let (settings, note) := ofRequest r e settings
  match settings.problem? with
  | some problem => note ++ "Failed to initialize logging: " ++ problem.describe ++ "\n"
  | none => note

end LogSettings

end Gleaner.CommandLine
