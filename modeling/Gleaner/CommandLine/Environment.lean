import Gleaner.CommandLine.EnvFile
import Gleaner.CommandLine.Surroundings

/-!
# The environment of a command

The variables that matter are fetched once, together with those of the file of variables, which
never replace what the environment has.
-/

namespace Gleaner.CommandLine

/-- Variables with their values. -/
abbrev Environment := List (String × String)

namespace Environment

def get? (name : String) (e : Environment) : Option String :=
  Entries.get? name e

def configurationName : String := "TRACTOR_CONFIG"

def logLevelName : String := "RUST_LOG"

def logFormatName : String := "TRACTOR_LOG_FORMAT"

def logConsoleName : String := "TRACTOR_LOG_CONSOLE"

/-- The variables that matter to a command. -/
def relevant : List String :=
  [configurationName, logLevelName, logFormatName, logConsoleName, "XDG_CONFIG_HOME", "HOME",
   "CLICOLOR", "CLICOLOR_FORCE", "NO_COLOR"]

/-- Fetch the variables. -/
def load {m : Type → Type} [Monad m] (s : Surroundings m) : m Environment := do
  let assignments := EnvFile.read ((← s.variableFile).getD "")
  let answers ← (relevant ++ EnvFile.mentioned assignments).mapM fun name => do
    pure ((← s.valueOf name).map fun value => (name, value))
  pure (EnvFile.apply (Entries.ofPairs (answers.filterMap id)) assignments)

/-- Whether a variable that switches something is on. -/
def isOn (name : String) (e : Environment) : Bool :=
  (e.get? name).any (· ≠ "0")

/-- Whether colours are used while the settings are not known: a variable may force or forbid them,
and otherwise a terminal decides. -/
def usesColor (isTerminal : Bool) (e : Environment) : Bool :=
  e.isOn "CLICOLOR_FORCE" ||
    ((e.get? "NO_COLOR").isNone && ((e.get? "CLICOLOR").isNone || e.isOn "CLICOLOR") && isTerminal)

/-- Put a name behind the path of a directory. -/
def below (directory name : String) : String :=
  if directory.toList.getLast? = some '/' then directory ++ name else directory ++ "/" ++ name

/-- The directory of the user's configurations. A relative one is not accepted. -/
def configurationDirectory? (e : Environment) : Option String :=
  match e.get? "XDG_CONFIG_HOME" with
  | some directory =>
    if directory.toList.head? = some '/' then some directory else home?
  | none => home?
where
  home? : Option String :=
    (e.get? "HOME").bind fun home => if home = "" then none else some (below home ".config")

end Environment

end Gleaner.CommandLine
