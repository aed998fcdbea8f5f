import Gleaner.Output.Format
import Gleaner.Settings

/-!
# Settings of the command line

The settings have three sections: the engine, the output and the log. Every setting has a default,
and a section may leave out any of its settings.
-/

namespace Gleaner.CommandLine

structure OutputSettings where
  format : OutputFormat
  color : Bool
deriving DecidableEq, Inhabited

/-- How log records are laid out. -/
inductive LogFormat where
  | compact
  | full
  | json
deriving DecidableEq, Inhabited

structure LogSettings where
  level : String
  format : LogFormat
  console : Bool
  threadIds : Bool
  sourceLocation : Bool
  /-- Levels by module, where they are given. -/
  moduleFilter : Option (List (String × String))
deriving DecidableEq, Inhabited

structure Settings where
  engine : EngineSettings
  output : OutputSettings
  logging : LogSettings
deriving DecidableEq, Inhabited

namespace OutputSettings

def standard : OutputSettings :=
  { format := .human, color := true }

def form : RecordForm OutputSettings :=
  { title := "OutputConfig"
    fields :=
      [{ names := ["format"]
         put := fun v settings =>
           (v.asChoice OutputFormat.names "enum OutputFormat").map fun format =>
             { settings with format }
         required := false },
       { names := ["color"]
         put := fun v settings => v.asBool.map fun color => { settings with color }
         required := false }]
    initial := standard }

def toJson (settings : OutputSettings) : Json :=
  .object [("format", .string settings.format.name), ("color", .bool settings.color)]

end OutputSettings

namespace LogFormat

/-- The layouts by name. -/
def names : List (String × LogFormat) :=
  [("compact", compact), ("full", full), ("json", json)]

def name : LogFormat → String
  | compact => "compact"
  | full => "full"
  | json => "json"

/-- The name in messages. -/
def title : LogFormat → String
  | compact => "Compact"
  | full => "Full"
  | json => "Json"

end LogFormat

namespace LogSettings

def standard : LogSettings :=
  { level := "warn"
    format := .compact
    console := true
    threadIds := false
    sourceLocation := false
    moduleFilter := none }

/-- The settings for a degree of verbosity. -/
def ofVerbosity : Nat → LogSettings
  | 0 => standard
  | 1 => { standard with level := "info" }
  | 2 => { standard with level := "debug", sourceLocation := true }
  | _ =>
    { standard with level := "trace", format := .full, sourceLocation := true, threadIds := true }

/-- Levels by module; null is no filter. -/
def readFilter : Json → Except DecodeFault (Option (List (String × String)))
  | .null => .ok none
  | .object members =>
    (members.mapM fun ((name, v) : String × Json) => v.asText.map fun level => (name, level)).map
      fun levels => some (Entries.ofPairs levels)
  | other => other.wrongType "a map"

def form : RecordForm LogSettings :=
  { title := "LoggingConfig"
    fields :=
      [{ names := ["level"]
         put := fun v settings => v.asText.map fun level => { settings with level }
         required := false },
       { names := ["format"]
         put := fun v settings =>
           (v.asChoice LogFormat.names "enum LogFormat").map fun format => { settings with format }
         required := false },
       { names := ["console"]
         put := fun v settings => v.asBool.map fun console => { settings with console }
         required := false },
       { names := ["thread_ids"]
         put := fun v settings => v.asBool.map fun threadIds => { settings with threadIds }
         required := false },
       { names := ["source_location"]
         put := fun v settings =>
           v.asBool.map fun sourceLocation => { settings with sourceLocation }
         required := false },
       { names := ["module_filter"]
         put := fun v settings =>
           (readFilter v).map fun moduleFilter => { settings with moduleFilter }
         required := false }]
    initial := standard }

def filterToJson (filter : Option (List (String × String))) : Json :=
  match filter with
  | none => .null
  | some levels => .object (levels.map fun (name, level) => (name, .string level))

def toJson (settings : LogSettings) : Json :=
  .object
    [("level", .string settings.level), ("format", .string settings.format.name),
     ("console", .bool settings.console), ("thread_ids", .bool settings.threadIds),
     ("source_location", .bool settings.sourceLocation),
     ("module_filter", filterToJson settings.moduleFilter)]

end LogSettings

namespace Settings

def standard : Settings :=
  { engine := .standard, output := .standard, logging := .standard }

def form : RecordForm Settings :=
  { title := "Config"
    fields :=
      [{ names := ["engine"]
         put := fun v settings =>
           (EngineSettings.form.read v).map fun engine => { settings with engine }
         required := false },
       { names := ["output"]
         put := fun v settings =>
           (OutputSettings.form.read v).map fun output => { settings with output }
         required := false },
       { names := ["logging"]
         put := fun v settings =>
           (LogSettings.form.read v).map fun logging => { settings with logging }
         required := false }]
    initial := standard }

def read (document : Json) : Except DecodeFault Settings :=
  form.read document

def toJson (settings : Settings) : Json :=
  .object
    [("engine", settings.engine.toJson), ("output", settings.output.toJson),
     ("logging", settings.logging.toJson)]

end Settings

end Gleaner.CommandLine
