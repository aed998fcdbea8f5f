import Gleaner.Json.Writer
import Gleaner.Text.Space

/-!
# Trees for reading

A collection is shown as a tree of lines, one for each element or member at any depth, two blanks
deeper than its parent's line. Elements are marked by a dash, members by their key and a colon.
Scalars and empty collections stand on the line of their mark. A scalar on its own is shown bare.
-/

namespace Gleaner.Output.Tree

/-- A scalar or an empty collection on one line; texts are put in quotes without escapes. -/
def leaf : Json → String
  | .string s => "\"" ++ s ++ "\""
  | .array _ => "[]"
  | .object _ => "\x7b\x7d"
  | scalar => scalar.writeScalar

def line (depth : Nat) (text : String) : String :=
  Json.indentation depth ++ text ++ "\n"

mutual

/-- The lines below the mark of a value that is no leaf. -/
def lines (depth : Nat) : Json → List String
  | .array items => itemLines depth items
  | .object members => memberLines depth members
  | _ => []

def itemLines (depth : Nat) : List Json → List String
  | [] => []
  | v :: rest => entryLines depth "-" v ++ itemLines depth rest

def memberLines (depth : Nat) : List (String × Json) → List String
  | [] => []
  | (k, v) :: rest => entryLines depth (k ++ ":") v ++ memberLines depth rest

/-- The lines of an element or member behind its mark. -/
def entryLines (depth : Nat) (mark : String) : Json → List String
  | .array (item :: items) => line depth mark :: itemLines (depth + 1) (item :: items)
  | .object (member :: members) => line depth mark :: memberLines (depth + 1) (member :: members)
  | v => [line depth (mark ++ " " ++ leaf v)]

end

/-- The tree of a collection, every line with its line break. -/
def render (v : Json) : String :=
  match v with
  | .array [] => line 0 "[]"
  | .object [] => line 0 "\x7b\x7d"
  | v => String.join (lines 0 v)

/-- A document for reading. -/
def display (v : Json) : String :=
  match v with
  | .array items => String.ofList (Text.trimEnd (render (.array items)).toList)
  | .object members => String.ofList (Text.trimEnd (render (.object members)).toList)
  | .string s => s
  | scalar => scalar.writeScalar

end Gleaner.Output.Tree
