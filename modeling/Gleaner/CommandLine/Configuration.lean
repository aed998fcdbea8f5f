import Gleaner.CommandLine.Environment
import Gleaner.CommandLine.Settings
import Gleaner.Toml.Reader

/-!
# Finding the settings

A configuration that is named has to be there and has to be sound. Otherwise the usual places are
searched in order; a configuration there that is not sound is passed over with a warning, and
without any the defaults hold.
-/

namespace Gleaner.CommandLine

namespace Settings

/-- What is expected of a YAML document with settings: levels are texts however they are written. -/
def shape : Yaml.Shape :=
  .record
    [("engine", .record [("resolver", .record [("max_depth", .any)])]),
     ("output", .record [("format", .any), ("color", .any)]),
     ("logging", .record
      [("level", .text), ("format", .any), ("console", .any), ("thread_ids", .any),
       ("source_location", .any), ("module_filter", .mapping .text)])]

/-- The document in the text of a configuration, with all members as they are written. -/
def document? (format : FileFormat) (text : String) : Option Json :=
  match format with
  | .json => Json.readAsWritten? Json.maxLevels text
  | .yaml => (Yaml.read? text).bind fun node => node.toJsonAs? shape Yaml.maxLevels
  | .toml => Toml.readJson? text

/-- What is wrong with a configuration of a format. -/
def problem (format : FileFormat) (text : String) : Problem :=
  match format with
  | .json => .json text
  | .yaml => .yaml text
  | .toml => .toml text

/-- Decode the settings from the text of a configuration. -/
def ofText (path text : String) : Except Problem Settings :=
  let format := FileFormat.ofPath path
  match document? format text with
  | none => .error (problem format "malformed document")
  | some document => (read document).mapError fun fault => problem format fault.message

/-- The places where a configuration is looked for, in order. -/
def usualPaths (e : Environment) : List String :=
  let endings := ["yaml", "json", "toml"]
  let here := [".tractor.", "tractor."].flatMap fun stem => endings.map (stem ++ ·)
  let atHome := (e.configurationDirectory?.toList).flatMap fun directory =>
    endings.map fun ending =>
      Environment.below (Environment.below directory "tractor") ("config." ++ ending)
  here ++ atHome

def warning (path : String) (p : Problem) : String :=
  "Warning: Failed to load config from " ++ Text.quoted path ++ ": " ++ p.describe ++ "\n"

variable {m : Type → Type} [Monad m]

/-- The settings at a path. -/
def load (s : Surroundings m) (path : String) : m (Except Problem Settings) := do
  match ← s.text path with
  | .ok text => pure (ofText path text)
  | .error problem => pure (.error problem)

/-- Search some places; what is given besides are the warnings. -/
def search (s : Surroundings m) (warnings : String) : List String → m (String × Settings)
  | [] => pure (warnings, standard)
  | path :: rest => do
    match ← load s path with
    | .ok settings => pure (warnings, settings)
    | .error (.fileNotFound _) => search s warnings rest
    | .error problem => search s (warnings ++ warning path problem) rest

/-- Find the settings: at the path that is named, or in the usual places. -/
def find (s : Surroundings m) (e : Environment) (path : Option String) :
    m (String × Except Problem Settings) := do
  match path with
  | some path => pure ("", ← load s path)
  | none =>
    let (warnings, settings) ← search s "" (usualPaths e)
    pure (warnings, .ok settings)

end Settings

end Gleaner.CommandLine
