import Gleaner.Output.Format

/-!
# Reading the arguments of a command

A request is a command with its operands and options, and options that are common to all commands
and may stand before or behind the command's name. What stands behind it counts. Arguments are read
from left to right, so the first thing wrong, or the first request for help or for the version,
decides.
-/

namespace Gleaner.CommandLine

inductive DefinitionKind where
  | pipeline
  | mapping
deriving DecidableEq, Inhabited

inductive Shell where
  | bash
  | zsh
  | fish
  | powerShell
  | elvish
deriving DecidableEq, Inhabited

/-- A command. Files are given by path, and a dash is the standard input. -/
inductive Command where
  | extract (subject accessor : String) (pipeline context : Option String)
  | map (subject mapping : String) (context : Option String)
  | check (file : String) (kind : DefinitionKind)
  | completions (shell : Shell)
deriving DecidableEq, Inhabited

structure Request where
  verbosity : Nat
  quiet : Bool
  configuration : Option String
  output : Option OutputFormat
  noColor : Bool
  command : Command
deriving DecidableEq, Inhabited

/-- A quiet request is not verbose, whatever it asks for. -/
def Request.effectiveVerbosity (r : Request) : Nat :=
  if r.quiet then 0 else r.verbosity

/-- Why there is no request. -/
inductive NoRequest where
  | help
  | version (program : String)
  | misuse
deriving DecidableEq

def DefinitionKind.names : List (String × DefinitionKind) :=
  [("pipeline", .pipeline), ("mapping", .mapping)]

def DefinitionKind.name : DefinitionKind → String
  | pipeline => "pipeline"
  | mapping => "mapping"

def Shell.names : List (String × Shell) :=
  [("bash", .bash), ("zsh", .zsh), ("fish", .fish), ("power-shell", .powerShell),
   ("elvish", .elvish)]

def programName : String := "tractor"

namespace Request

/-! ### Options -/

inductive Switch where
  | verbose
  | quiet
  | configuration
  | output
  | noColor
  | help
  | version
  | accessor
  | pipeline
  | context
  | mapping
  | kind
deriving DecidableEq, Inhabited

/-- How an option is written. -/
structure OptionForm where
  switch : Switch
  letter : Option Char
  word : String
  takesValue : Bool
deriving Inhabited

/-- The options that every command has. -/
def commonForms : List OptionForm :=
  [⟨.verbose, some 'v', "verbose", false⟩, ⟨.quiet, some 'q', "quiet", false⟩,
   ⟨.configuration, some 'c', "config", true⟩, ⟨.output, some 'o', "output", true⟩,
   ⟨.noColor, none, "no-color", false⟩, ⟨.help, some 'h', "help", false⟩,
   ⟨.version, some 'V', "version", false⟩]

/-- Whether an option may take a value. Paths must not be empty. -/
def isValue (switch : Switch) (value : String) : Bool :=
  match switch with
  | .accessor => true
  | .output => (OutputFormat.names.lookup value).isSome
  | .kind => (DefinitionKind.names.lookup value).isSome
  | _ => value ≠ ""

/-- What was given in front of a command's name, or behind it. -/
structure Given where
  /-- The program that the options are for. -/
  program : String
  forms : List OptionForm
  /-- Options with their values, last first. -/
  options : List (Switch × String)
  operands : List String

namespace Given

def count (switch : Switch) (g : Given) : Nat :=
  (g.options.filter fun option => option.1 = switch).length

def has (switch : Switch) (g : Given) : Bool :=
  g.count switch ≠ 0

def value? (switch : Switch) (g : Given) : Option String :=
  g.options.lookup switch

/-- Take an option. Only the one that is counted may be repeated. -/
def take (switch : Switch) (value : String) (g : Given) : Except NoRequest Given :=
  match switch with
  | .help => .error .help
  | .version => .error (.version g.program)
  | .verbose => .ok { g with options := (.verbose, "") :: g.options }
  | switch =>
    if g.has switch then .error .misuse
    else .ok { g with options := (switch, value) :: g.options }

/-- Take an option with its value. -/
def takeValue (switch : Switch) (value : String) (g : Given) : Except NoRequest Given :=
  if isValue switch value then g.take switch value else .error .misuse

/-- Take an operand; a command has one. -/
def takeOperand (value : String) (g : Given) : Except NoRequest Given :=
  if g.operands.isEmpty && value ≠ "" then .ok { g with operands := [value] } else .error .misuse

end Given

/-- What letters behind one dash ask for: options are taken, and the last may still lack its
value. -/
def takeLetters (g : Given) : List Char → Except NoRequest (Given × Option Switch)
  | [] => .ok (g, none)
  | c :: rest =>
    match g.forms.find? fun form => form.letter = some c with
    | none => .error .misuse
    | some form =>
      if form.takesValue then
        match rest with
        | [] => .ok (g, some form.switch)
        | '=' :: value => (g.takeValue form.switch (String.ofList value)).map fun g => (g, none)
        | value => (g.takeValue form.switch (String.ofList value)).map fun g => (g, none)
      else
        match g.take form.switch "" with
        | .ok g => takeLetters g rest
        | .error stop => .error stop

/-- Take an option written as a word behind two dashes, perhaps with its value behind an equals
sign. -/
def takeWord (g : Given) (chars : List Char) : Except NoRequest (Given × Option Switch) :=
  let word := String.ofList (chars.takeWhile (· ≠ '='))
  match g.forms.find? (fun form => form.word = word), chars.dropWhile (· ≠ '=') with
  | none, _ => .error .misuse
  | some form, _ :: value =>
    if form.takesValue then
      (g.takeValue form.switch (String.ofList value)).map fun g => (g, none)
    else .error .misuse
  | some form, [] =>
    if form.takesValue then .ok (g, some form.switch)
    else (g.take form.switch "").map fun g => (g, none)

/-- The kinds of arguments. -/
inductive Token where
  | separator
  | word (chars : List Char)
  | letters (chars : List Char)
  | plain (text : String)

def classify (argument : String) : Token :=
  match argument.toList with
  | ['-', '-'] => .separator
  | '-' :: '-' :: chars => .word chars
  | '-' :: c :: chars => .letters (c :: chars)
  | _ => .plain argument

/-! ### Commands -/

/-- The options of a command besides the common ones. -/
def ownForms? (name : String) : Option (List OptionForm) :=
  let context : OptionForm := ⟨.context, none, "context", true⟩
  match name with
  | "extract" =>
    some [⟨.accessor, some 'a', "accessor", true⟩, ⟨.pipeline, some 'p', "pipeline", true⟩, context]
  | "map" => some [⟨.mapping, some 'm', "mapping", true⟩, context]
  | "check" => some [⟨.kind, some 'k', "kind", true⟩]
  | "completions" => some []
  | _ => none

/-- The command that the options and the operand behind its name make. -/
def command? (name : String) (g : Given) : Option Command := do
  let operand ← g.operands.head?
  match name with
  | "extract" =>
    some (.extract operand ((g.value? .accessor).getD "") (g.value? .pipeline) (g.value? .context))
  | "map" => some (.map operand (← g.value? .mapping) (g.value? .context))
  | "check" =>
    let kind := (g.value? .kind).bind fun kind => DefinitionKind.names.lookup kind
    some (.check operand (kind.getD .pipeline))
  | "completions" => (Shell.names.lookup operand).map .completions
  | _ => none

/-- Whether an operand is refused as soon as it is read. -/
def refusesOperand (name operand : String) : Bool :=
  name = "completions" && (Shell.names.lookup operand).isNone

/-- Read the arguments behind a command's name. `awaiting` is an option that lacks its value. -/
def readBehind (name : String) (literal : Bool) (awaiting : Option Switch) (g : Given) :
    List String → Except NoRequest Given
  | [] => if awaiting.isSome then .error .misuse else .ok g
  | argument :: rest =>
    let token := if literal then .plain argument else classify argument
    match awaiting, token with
    | some switch, .plain value =>
      match g.takeValue switch value with
      | .ok g => readBehind name literal none g rest
      | .error stop => .error stop
    | some _, _ => .error .misuse
    | none, .separator => readBehind name true none g rest
    | none, .word chars =>
      match takeWord g chars with
      | .ok (g, awaiting) => readBehind name literal awaiting g rest
      | .error stop => .error stop
    | none, .letters chars =>
      match takeLetters g chars with
      | .ok (g, awaiting) => readBehind name literal awaiting g rest
      | .error stop => .error stop
    | none, .plain operand =>
      if refusesOperand name operand then .error .misuse
      else
        match g.takeOperand operand with
        | .ok g => readBehind name literal none g rest
        | .error stop => .error stop

/-- Read the arguments up to a command's name; the name and the arguments behind it are left. -/
def readBefore (awaiting : Option Switch) (g : Given) :
    List String → Except NoRequest (Given × String × List String)
  | [] => .error .misuse
  | argument :: rest =>
    match awaiting, classify argument with
    | some switch, .plain value =>
      match g.takeValue switch value with
      | .ok g => readBefore none g rest
      | .error stop => .error stop
    | some _, _ => .error .misuse
    | none, .separator => .error .misuse
    | none, .word chars =>
      match takeWord g chars with
      | .ok (g, awaiting) => readBefore awaiting g rest
      | .error stop => .error stop
    | none, .letters chars =>
      match takeLetters g chars with
      | .ok (g, awaiting) => readBefore awaiting g rest
      | .error stop => .error stop
    | none, .plain name => .ok (g, name, rest)

/-- Whether being quiet and being verbose are both asked for in one place. -/
def isTorn (g : Given) : Bool :=
  g.has .quiet && g.has .verbose

/-- What help is asked for: about the program or one of its commands. -/
def helpOn (arguments : List String) : NoRequest :=
  match arguments with
  | [] => .help
  | [name] => if name = "help" || (ownForms? name).isSome then .help else .misuse
  | _ => .misuse

/-- The path of the configuration: behind the name, before it, or in the environment, where it must
not be empty if it may be looked up. -/
def configuration? (before behind : Given) (environment : Option String) :
    Except NoRequest (Option String) :=
  let here := before.value? .configuration
  let there := behind.value? .configuration
  if environment = some "" && !(here.isSome && there.isSome) then .error .misuse
  else .ok (there.or (here.or environment))

/-- Put together what stands before a command's name and behind it. -/
def combine (before behind : Given) (configuration : Option String) (command : Command) : Request :=
  let given (switch : Switch) : Given := if behind.has switch then behind else before
  { verbosity := min 255 ((given .verbose).count .verbose)
    quiet := (given .quiet).has .quiet
    configuration
    output := ((given .output).value? .output).bind fun name => OutputFormat.names.lookup name
    noColor := (given .noColor).has .noColor
    command }

/-- Read a request. `environment` is the path of the configuration that the environment gives. -/
def read (environment : Option String) (arguments : List String) : Except NoRequest Request := do
  let (before, name, rest) ← readBefore none ⟨programName, commonForms, [], []⟩ arguments
  if name = "help" then .error (helpOn rest)
  else
    match ownForms? name with
    | none => .error .misuse
    | some own =>
      let behind ← readBehind name false none
        ⟨programName ++ "-" ++ name, commonForms ++ own, [], []⟩ rest
      match command? name behind with
      | none => .error .misuse
      | some command =>
        if isTorn before || isTorn behind then .error .misuse
        else
          let configuration ← configuration? before behind environment
          .ok (combine before behind configuration command)

end Request

end Gleaner.CommandLine
