import Gleaner.Json.Reader
import Gleaner.Problem
import Gleaner.Yaml.Reader

/-!
# What surrounds a command

A command asks its surroundings for files, for the standard input and for variables of the
environment, and for nothing else. The surroundings are a parameter, so everything a command does is
a function of their answers. Documents are read from files by the ending of their names.
-/

namespace Gleaner.CommandLine

/-- What is known of the file at a path. -/
inductive FileAnswer where
  | missing
  | failed (text : String)
  | content (text : String)
deriving DecidableEq, Inhabited

structure Surroundings (m : Type → Type) where
  file : String → m FileAnswer
  input : m (Except String String)
  valueOf : String → m (Option String)
  /-- The nearest file of variables, in the current directory or above it. -/
  variableFile : m (Option String)
  /-- Whether the output is shown on a terminal. -/
  isTerminal : m Bool

/-- The data formats of files. -/
inductive FileFormat where
  | json
  | yaml
  | toml
deriving DecidableEq

namespace FileFormat

def splitSlashes : List Char → List (List Char)
  | [] => [[]]
  | c :: rest =>
    if c = '/' then [] :: splitSlashes rest
    else
      match splitSlashes rest with
      | [] => [[c]]
      | part :: parts => (c :: part) :: parts

/-- The last part of a path. -/
def fileName (path : String) : List Char :=
  (((splitSlashes path.toList).filter fun part => !part.isEmpty).getLast?).getD []

/-- What stands behind the last dot of a name, unless that dot is the first character. -/
def ending? (path : String) : Option String :=
  let name := (fileName path).reverse
  let ending := name.takeWhile (· ≠ '.')
  match name.dropWhile (· ≠ '.') with
  | _ :: _ :: _ => if fileName path = ['.', '.'] then none else some (String.ofList ending.reverse)
  | _ => none

/-- The format that the ending of a path tells. -/
def ofPath (path : String) : FileFormat :=
  match ending? path with
  | some "yaml" => yaml
  | some "yml" => yaml
  | some "toml" => toml
  | _ => json

end FileFormat

/-- The path that stands for the standard input. -/
def inputPath : String := "-"

/-- Decode a document from the text of a file; what is not known to be YAML is JSON. -/
def decodeDocument (path text : String) : Except Problem Json :=
  match FileFormat.ofPath path with
  | .yaml =>
    match Yaml.readJson? text with
    | some v => .ok v
    | none => .error (.invalidFormat path "YAML")
  | _ =>
    match Json.read? text with
    | some v => .ok v
    | none => .error (.invalidFormat path "JSON")

/-- Decode a document from the standard input. It is read as YAML, of which JSON is a part. -/
def decodeInput (text : String) : Except Problem Json :=
  match Yaml.readJson? text with
  | some v => .ok v
  | none => .error (.invalidFormat inputPath "JSON or YAML")

namespace Surroundings

variable {m : Type → Type} [Monad m]

/-- The text of a file that has to be there. -/
def text (s : Surroundings m) (path : String) : m (Except Problem String) := do
  match ← s.file path with
  | .missing => pure (.error (.fileNotFound path))
  | .failed text => pure (.error (.io text))
  | .content text => pure (.ok text)

/-- The document at a path. -/
def document (s : Surroundings m) (path : String) : m (Except Problem Json) := do
  if path = inputPath then
    match ← s.input with
    | .ok text => pure (decodeInput text)
    | .error text => pure (.error (.io text))
  else
    match ← s.text path with
    | .ok text => pure (decodeDocument path text)
    | .error problem => pure (.error problem)

end Surroundings

end Gleaner.CommandLine
