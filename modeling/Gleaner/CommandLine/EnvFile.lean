import Gleaner.Entries
import Gleaner.Text.Property

/-!
# Files of environment variables

Each line of such a file assigns a value to a variable. A value may quote, may escape characters,
and may refer to variables. Reading stops at the first line that is malformed. A variable that has a
value keeps it.
-/

namespace Gleaner.CommandLine.EnvFile

/-- A part of a value: a character, or the value of a variable. -/
inductive Piece where
  | char (c : Char)
  | reference (name : String)
deriving DecidableEq

structure Assignment where
  name : String
  value : List Piece
deriving DecidableEq

/-- Where in a value the reader is. -/
inductive Place where
  | bare
  | escaped
  | singleQuoted
  /-- In the name of a variable, last character first. -/
  | name (braced : Bool) (chars : List Char)
  /-- Behind a value that ended with a blank. -/
  | behind

/-- The reference to a variable; no name, no reference. -/
def referenceTo (chars : List Char) : List Piece :=
  if chars.isEmpty then [] else [.reference (String.ofList chars.reverse)]

/-- Read a value. `quoted` tells whether a double quote is open, `seen` holds the pieces before,
last first. -/
def readValue (quoted : Bool) (place : Place) (seen : List Piece) : List Char → Option (List Piece)
  | [] =>
    match place with
    | .singleQuoted => none
    | .name true _ => none
    | .name false chars => if quoted then none else some (seen.reverse ++ referenceTo chars)
    | _ => if quoted then none else some seen.reverse
  | c :: rest =>
    match place with
    | .behind =>
      if c = ' ' || c = '\t' then readValue quoted .behind seen rest
      else if c = '#' then some seen.reverse
      else none
    | .escaped =>
      if c = 'n' then readValue quoted .bare (.char '\n' :: seen) rest
      else if c = '\\' || c = '\'' || c = '"' || c = '$' || c = ' ' then
        readValue quoted .bare (.char c :: seen) rest
      else none
    | .singleQuoted =>
      if c = '\'' then readValue quoted .bare seen rest
      else readValue quoted .singleQuoted (.char c :: seen) rest
    | .name braced chars =>
      if Text.Property.alphanumeric.holds c then
        readValue quoted (.name braced (c :: chars)) seen rest
      else if braced then
        if c = '}' then readValue quoted .bare (referenceTo chars ++ seen) rest
        else readValue quoted (.name true (c :: chars)) seen rest
      else if c = '{' && chars.isEmpty then readValue quoted (.name true []) seen rest
      else if c = '$' then readValue quoted (.name false []) (referenceTo chars ++ seen) rest
      else readValue quoted .bare (.char c :: referenceTo chars ++ seen) rest
    | .bare =>
      if c = '$' then readValue quoted (.name false []) seen rest
      else if c = '"' then readValue (!quoted) .bare seen rest
      else if c = '\\' then readValue quoted .escaped seen rest
      else if quoted then readValue quoted .bare (.char c :: seen) rest
      else if c = '\'' then readValue quoted .singleQuoted seen rest
      else if c = ' ' || c = '\t' then readValue quoted .behind seen rest
      else readValue quoted .bare (.char c :: seen) rest

def isNameStart (c : Char) : Bool :=
  c.isAlpha || c = '_'

def isNameChar (c : Char) : Bool :=
  c.isAlphanum || c = '_' || c = '.'

/-- Read a name and the blanks behind it. -/
def readName? (chars : List Char) : Option (List Char × List Char) :=
  if chars.head?.any isNameStart then
    some (chars.takeWhile isNameChar, Text.trimStart (chars.dropWhile isNameChar))
  else none

/-- Read the text behind a name: an equals sign and a value, which may be empty. -/
def readRest? (name : List Char) : List Char → Option Assignment
  | '=' :: rest =>
    match Text.trimStart rest with
    | [] => some ⟨String.ofList name, []⟩
    | '#' :: _ => some ⟨String.ofList name, []⟩
    | value => (readValue false .bare [] value).map fun pieces => ⟨String.ofList name, pieces⟩
  | _ => none

/-- Read a line that is not blank and no comment. The word `export` may stand in front of a name,
and may be a name itself. -/
def readAssignment? (line : List Char) : Option Assignment := do
  let (name, rest) ← readName? line
  if name = "export".toList ∧ rest.head? ≠ some '=' then
    let (name, rest) ← readName? rest
    readRest? name rest
  else readRest? name rest

def lines : List Char → List (List Char)
  | [] => [[]]
  | c :: rest =>
    if c = '\n' then [] :: lines rest
    else
      match lines rest with
      | [] => [[c]]
      | line :: others => (c :: line) :: others

/-- The assignments of some lines up to the first that is malformed. -/
def readLines : List (List Char) → List Assignment
  | [] => []
  | line :: rest =>
    match Text.trimStart (Text.trimEnd line) with
    | [] => readLines rest
    | '#' :: _ => readLines rest
    | line =>
      match readAssignment? line with
      | some assignment => assignment :: readLines rest
      | none => []

def read (text : String) : List Assignment :=
  readLines (lines text.toList)

/-- The variables to which a value refers. -/
def references (value : List Piece) : List String :=
  value.filterMap fun piece =>
    match piece with
    | .reference name => some name
    | .char _ => none

/-- All variables that are assigned or referred to. -/
def mentioned (assignments : List Assignment) : List String :=
  assignments.flatMap fun a => a.name :: references a.value

/-- The text of a value; a variable without value is empty. -/
def expand (known : List (String × String)) (value : List Piece) : String :=
  String.join (value.map fun piece =>
    match piece with
    | .char c => c.toString
    | .reference name => (Entries.get? name known).getD "")

/-- The variables after all assignments: what has a value keeps it. -/
def apply (known : List (String × String)) (assignments : List Assignment) :
    List (String × String) :=
  assignments.foldl (fun known a =>
    if Entries.contains a.name known then known
    else Entries.insert a.name (expand known a.value) known) known

end Gleaner.CommandLine.EnvFile
