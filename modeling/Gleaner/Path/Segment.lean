import Gleaner.Text.Space

/-!
# Paths and their segments

A path is a chain of segments between dots. A segment is read in one of three ways: as a scope, when
it has a double colon, of which the first counts; else as a call, when it ends in a pair of
parentheses; else as a lookup. Segments that hold nothing but white space are skipped.
-/

namespace Gleaner

namespace Path

/-- The parts of a text between dots. There is always at least one. -/
def splitDots : List Char → List (List Char)
  | [] => [[]]
  | c :: rest =>
    if c = '.' then [] :: splitDots rest
    else
      match splitDots rest with
      | [] => [[c]]
      | part :: parts => (c :: part) :: parts

/-- The segments of a path in order. -/
def segments (path : String) : List String :=
  ((splitDots path.toList).map String.ofList).filter fun segment => !Text.isBlank segment

/-- Split a text at its first double colon. -/
def splitScope? : List Char → Option (List Char × List Char)
  | ':' :: ':' :: rest => some ([], rest)
  | c :: rest => (splitScope? rest).map fun (entry, rest) => (c :: entry, rest)
  | [] => none

/-- The text in front of a final pair of parentheses. -/
def beforeCall? : List Char → Option (List Char)
  | ['(', ')'] => some []
  | c :: rest => (beforeCall? rest).map (c :: ·)
  | [] => none

end Path

/-- One reading of a segment. -/
inductive Segment where
  /-- Look up `entry` in the context and read `rest` on it. -/
  | scope (entry rest : String)
  /-- Invoke a method. -/
  | call (method : String)
  /-- Read a key, an index or a field. -/
  | lookup (name : String)
deriving DecidableEq

namespace Segment

def classify (text : String) : Segment :=
  match Path.splitScope? text.toList with
  | some (entry, rest) => scope (String.ofList entry) (String.ofList rest)
  | none =>
    match Path.beforeCall? text.toList with
    | some method => call (String.ofList method)
    | none => lookup text

end Segment

end Gleaner
