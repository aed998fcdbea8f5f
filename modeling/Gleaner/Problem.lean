import Gleaner.Failure
import Gleaner.Output.Style

/-!
# Problems of the command line

A problem is a failure of the engine or something that went wrong around it: files, formats,
arguments. Each has an exit code. A failure of the engine has that of the failing stage's own
failure, however often it is wrapped.
-/

namespace Gleaner

inductive Problem where
  | io (text : String)
  | engine (failure : Failure)
  | fileNotFound (path : String)
  | invalidFormat (path expected : String)
  | configuration (text : String)
  | invalidArguments (text : String)
  | json (text : String)
  | yaml (text : String)
  | toml (text : String)
  | other (text : String)

/-- The exit code of a failure of the engine. -/
def FailureKind.exitCode : FailureKind → Nat
  | extraction => 20
  | transformation => 21
  | invalidData => 22
  | invalidType => 22
  | configuration => 23
  | stage => 24
  | notFound => 25
  | invalidInstance => 25

/-- The report of the failure within all wrappers, with the index of the outermost one. -/
def Failure.stageReport (f : Failure) : Report :=
  { f.unwrapped.report with stageIndex := f.stageIndex? }

namespace Problem

def describe : Problem → String
  | io text => "IO error: " ++ text
  | engine failure => failure.describe
  | fileNotFound path => "File not found: " ++ path
  | invalidFormat path expected =>
    "Invalid file format for " ++ path ++ ": expected " ++ expected
  | configuration text => "Configuration error: " ++ text
  | invalidArguments text => "Invalid arguments: " ++ text
  | json text => "JSON error: " ++ text
  | yaml text => "YAML error: " ++ text
  | toml text => "TOML error: " ++ text
  | other text => text

def exitCode : Problem → Nat
  | io _ => 1
  | engine failure => failure.unwrapped.kind.exitCode
  | fileNotFound _ => 3
  | invalidFormat _ _ => 4
  | configuration _ => 5
  | invalidArguments _ => 6
  | json _ => 12
  | yaml _ => 13
  | toml _ => 14
  | other _ => 99

/-- Whether the user is pointed to the help text. -/
def showsHelp : Problem → Bool
  | invalidArguments _ => true
  | _ => false

/-- What failed, where and in which stage, on one line. -/
def heading (f : Failure) : String :=
  let origin := match f.origin? with
    | some origin => " in '" ++ origin ++ "'"
    | none => ""
  let index := match f.stageIndex? with
    | some index => " at stage " ++ Numeral.ofNat index
    | none => ""
  f.unwrapped.kind.title ++ origin ++ index

/-- The text for people: a failure of the engine with all its messages, oldest first, and the data
that its report shows. -/
def format (color : Bool) : Problem → String
  | engine failure =>
    let first := Output.Style.paintIf color .redBold "Error:" ++ " " ++
      Output.Style.paintIf color .bold (heading failure)
    let messages := failure.report.messages.map fun message => "  - " ++ message
    let data := failure.report.data.toList.map fun v => "  data: " ++ v.compact
    String.intercalate "\n" (first :: messages ++ data)
  | problem => Output.Style.paintIf color .redBold "Error:" ++ " " ++ problem.describe

/-- The document for machines: the stage report of a failure of the engine, or the text and exit
code of any other problem. -/
def toJson : Problem → Json
  | engine failure => failure.stageReport.toJson
  | problem => .object [("error", .string problem.describe), ("exit_code", .int problem.exitCode)]

end Problem

end Gleaner
