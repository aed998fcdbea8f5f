import Gleaner.Json.Basic
import Gleaner.Number.Decimal

/-!
# Writing documents

The compact form has no blanks; the indented form puts every element on a line of its own, two
blanks deeper than its collection. Both escape the same characters and write numbers alike.
-/

namespace Gleaner.Json

/-- Positional from five places behind the point to sixteen before it, always with a point, and an
exponent with its sign otherwise. -/
def numberStyle : DecimalStyle :=
  { leastPositional := -5, greatestPositional := 15, wholeEnding := ".0", exponentPlus := "+" }

def hexDigit (n : Nat) : Char :=
  if n < 10 then Char.ofNat (48 + n) else Char.ofNat (87 + n)

/-- A character as it stands inside quotes. -/
def escapeChar (c : Char) : List Char :=
  if c = '"' then ['\\', '"']
  else if c = '\\' then ['\\', '\\']
  else if c = '\x08' then ['\\', 'b']
  else if c = '\x0c' then ['\\', 'f']
  else if c = '\n' then ['\\', 'n']
  else if c = '\r' then ['\\', 'r']
  else if c = '\t' then ['\\', 't']
  else if c.toNat < 0x20 then
    ['\\', 'u', '0', '0', hexDigit (c.toNat / 16), hexDigit (c.toNat % 16)]
  else [c]

def quote (s : String) : String :=
  String.ofList ('"' :: s.toList.flatMap escapeChar ++ ['"'])

/-- Numbers that are not finite have no numeral and are written as null. -/
def writeFloat (x : Binary64) : String :=
  if x.isFinite then numberStyle.write x else "null"

/-- The text of a value that is no collection. -/
def writeScalar : Json → String
  | null => "null"
  | bool true => "true"
  | bool false => "false"
  | int n => Numeral.ofInt n
  | float x => writeFloat x
  | string s => quote s
  | array _ => ""
  | object _ => ""

mutual

/-- The text without blanks. -/
def compact : Json → String
  | array items => "[" ++ String.intercalate "," (compactItems items) ++ "]"
  | object members => "\x7b" ++ String.intercalate "," (compactMembers members) ++ "\x7d"
  | scalar => writeScalar scalar

def compactItems : List Json → List String
  | [] => []
  | v :: rest => compact v :: compactItems rest

def compactMembers : List (String × Json) → List String
  | [] => []
  | (k, v) :: rest => (quote k ++ ":" ++ compact v) :: compactMembers rest

end

def indentation (level : Nat) : String :=
  String.ofList (List.replicate (2 * level) ' ')

/-- The lines of a collection between its brackets, which stand at `level`. -/
def bracket (level : Nat) (opening closing : String) (lines : List String) : String :=
  if lines.isEmpty then opening ++ closing
  else
    opening ++ "\n" ++ String.intercalate ",\n" (lines.map (indentation (level + 1) ++ ·)) ++
      "\n" ++ indentation level ++ closing

mutual

/-- The indented text of a value whose own line stands at `level`. -/
def prettyAt (level : Nat) : Json → String
  | array items => bracket level "[" "]" (prettyItems (level + 1) items)
  | object members => bracket level "\x7b" "\x7d" (prettyMembers (level + 1) members)
  | scalar => writeScalar scalar

def prettyItems (level : Nat) : List Json → List String
  | [] => []
  | v :: rest => prettyAt level v :: prettyItems level rest

def prettyMembers (level : Nat) : List (String × Json) → List String
  | [] => []
  | (k, v) :: rest => (quote k ++ ": " ++ prettyAt level v) :: prettyMembers level rest

end

def pretty (v : Json) : String :=
  prettyAt 0 v

end Gleaner.Json
