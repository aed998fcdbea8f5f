import Gleaner.CommandLine.Checking
import Gleaner.CommandLine.Configuration
import Gleaner.CommandLine.Logging

/-!
# Running a command

A session reads the request, finds the settings, loads the documents that the command names and
writes what the command gives. Documents are loaded in a fixed order, and the first problem ends the
session.
-/

namespace Gleaner.CommandLine

/-- What a session leaves: an exit code and the two outputs. -/
structure Outcome where
  exitCode : Nat
  output : String
  errors : String
deriving DecidableEq, Inhabited

namespace Session

variable {m : Type → Type} [Monad m]

def helpText : String :=
  "Usage: tractor [OPTIONS] <COMMAND>\n\n" ++
  "Commands:\n" ++
  "  extract      Resolve an accessor against a document, optionally through a pipeline\n" ++
  "  map          Build an output document from a field mapping\n" ++
  "  check        Check a pipeline or mapping definition without running it\n" ++
  "  completions  Generate shell completions for the specified shell\n" ++
  "  help         Print this message\n\n" ++
  "Options:\n" ++
  "  -v, --verbose          Enable verbose output, repeatable\n" ++
  "  -q, --quiet            Suppress all non-essential output\n" ++
  "  -c, --config <CONFIG>  Path to configuration file\n" ++
  "  -o, --output <OUTPUT>  Output format: human, json, yaml or json-pretty\n" ++
  "      --no-color         Disable colored output\n" ++
  "  -h, --help             Print help\n" ++
  "  -V, --version          Print version\n"

def versionText : String := "0.1.0"

def misuseText : String :=
  "error: the arguments are not understood\n\nFor more information, try '--help'.\n"

/-- The names of all commands. -/
def commandNames : String := "extract map check completions help"

/-- A script that lets a shell complete the names of commands. -/
def completionScript : Shell → String
  | .bash => "complete -W \"" ++ commandNames ++ "\" tractor\n"
  | .zsh => "compctl -k \"(" ++ commandNames ++ ")\" tractor\n"
  | .fish => "complete -c tractor -f -a \"" ++ commandNames ++ "\"\n"
  | .powerShell =>
    "Register-ArgumentCompleter -Native -CommandName tractor -ScriptBlock \x7b\n  '" ++
      commandNames ++ "' -split ' '\n\x7d\n"
  | .elvish =>
    "set edit:completion:arg-completer[tractor] = \x7b|@words| put " ++ commandNames ++ " \x7d\n"

/-- No two documents may be read from the standard input. -/
def checkInput (paths : List (Option String)) : Except Problem Unit :=
  if 1 < (paths.filter (· = some inputPath)).length then
    .error (.invalidArguments "standard input ('-') can only be read once")
  else .ok ()

def document (s : Surroundings m) (path : String) : ExceptT Problem m Json :=
  ExceptT.mk (s.document path)

/-- The context at a path; without one it is empty. -/
def context (s : Surroundings m) (path : Option String) : ExceptT Problem m Context := do
  match path with
  | none => pure .empty
  | some path => ExceptT.mk (pure (contextOf path (← document s path)))

/-- The pipeline at a path, if there is one. -/
def pipeline (s : Surroundings m) (x : Extractor) (path : Option String) :
    ExceptT Problem m (Option Pipeline) := do
  match path with
  | none => pure none
  | some path =>
    let p ← ExceptT.mk (pure (pipelineOf x (← document s path)))
    pure (some p)

/-- Load what a command needs, and carry it out. -/
def perform (s : Surroundings m) (w : Output.Writer) (x : Extractor) :
    Command → ExceptT Problem m Transcript
  | .extract subjectPath accessor pipelinePath contextPath => do
    ExceptT.mk (pure (checkInput [some subjectPath, pipelinePath, contextPath]))
    let subject ← document s subjectPath
    let context ← context s contextPath
    let pipeline ← pipeline s x pipelinePath
    pure (extractValue w x (.ofJson subject) accessor pipeline context)
  | .map subjectPath mappingPath contextPath => do
    ExceptT.mk (pure (checkInput [some subjectPath, some mappingPath, contextPath]))
    let mapping ← ExceptT.mk (pure (mappingOf mappingPath (← document s mappingPath)))
    let subject ← document s subjectPath
    let context ← context s contextPath
    pure (mapSubject w x (.ofJson subject) mapping context)
  | .check path kind => do
    let definition ← document s path
    let summary ← ExceptT.mk (pure (Summary.ofDocument x kind path definition))
    pure ⟨summary.write w path, none⟩
  | .completions shell => pure ⟨completionScript shell, none⟩

/-- What is written about a problem. -/
def complaint (format : OutputFormat) (color : Bool) (p : Problem) : String :=
  let w : Output.Writer := { format, color, quiet := false }
  w.problem p ++
    (if p.showsHelp && format = .human then "\nFor more information, try '--help'\n" else "")

/-- The outcome of a transcript behind some notes. -/
def outcome (format : OutputFormat) (color : Bool) (notes : String) (t : Transcript) : Outcome :=
  match t.problem with
  | none => ⟨0, t.written, notes⟩
  | some p => ⟨p.exitCode, t.written, notes ++ complaint format color p⟩

/-- Carry out a request. -/
def answer (s : Surroundings m) (e : Environment) (r : Request) : m Outcome := do
  let isTerminal ← s.isTerminal
  let (warnings, found) ← Settings.find s e r.configuration
  match found with
  | .error p =>
    pure (outcome (r.output.getD .human) (e.usesColor isTerminal) warnings (.failure p))
  | .ok settings =>
    let format := r.output.getD settings.output.format
    let color := !r.noColor && isTerminal && settings.output.color
    let notes := warnings ++ settings.logging.notes r e
    let x := Extractor.standard (settings.engine.resolver .silent)
    let w : Output.Writer := { format, color, quiet := r.quiet, verbosity := r.effectiveVerbosity }
    match ← (perform s w x r.command).run with
    | .error p => pure (outcome format color notes (.failure p))
    | .ok transcript => pure (outcome format color notes transcript)

/-- Run a command with its arguments. -/
def run (s : Surroundings m) (arguments : List String) : m Outcome := do
  let e ← Environment.load s
  match Request.read (e.get? Environment.configurationName) arguments with
  | .error .help => pure ⟨0, helpText, ""⟩
  | .error (.version program) => pure ⟨0, program ++ " " ++ versionText ++ "\n", ""⟩
  | .error .misuse => pure ⟨2, "", misuseText⟩
  | .ok r => answer s e r

end Session

end Gleaner.CommandLine
