import Gleaner.CommandLine.Session

/-!
# The program

The program lends a session the files, the standard input and the environment of its process, and
writes what the session leaves.
-/

namespace Gleaner

/-- What reading a file of the process gives. -/
def readAnswer (path : String) : IO CommandLine.FileAnswer := do
  try
    return .content (← IO.FS.readFile path)
  catch problem =>
    match problem with
    | .noFileOrDirectory _ _ _ => return .missing
    | .inappropriateType _ _ _ => return .failed "Is a directory (os error 21)"
    | .userError _ => return .failed "stream did not contain valid UTF-8"
    | problem => return .failed (toString problem)

/-- Read a stream to its end. -/
partial def readAll (stream : IO.FS.Stream) (before : String) : IO String := do
  let line ← stream.getLine
  if line.isEmpty then return before
  readAll stream (before ++ line)

/-- The standard input of the process. -/
def readInput : IO (Except String String) := do
  try
    return .ok (← readAll (← IO.getStdin) "")
  catch problem =>
    return .error (toString problem)

/-- The nearest file of variables: in the current directory, or up to so many levels above. -/
def readVariables (path : String) : Nat → IO (Option String)
  | 0 => return none
  | levels + 1 => do
    match ← readAnswer path with
    | .content text => return some text
    | _ => readVariables ("../" ++ path) levels

def surroundings : CommandLine.Surroundings IO :=
  { file := readAnswer
    input := readInput
    valueOf := fun name => IO.getEnv name
    variableFile := do
      let directory := (← IO.currentDir).toString
      readVariables ".env" (CommandLine.FileFormat.splitSlashes directory.toList).length
    isTerminal := do (← IO.getStdout).isTty }

end Gleaner

def main (arguments : List String) : IO UInt32 := do
  let outcome ← Gleaner.CommandLine.Session.run Gleaner.surroundings arguments
  IO.print outcome.output
  IO.eprint outcome.errors
  return UInt32.ofNat outcome.exitCode
