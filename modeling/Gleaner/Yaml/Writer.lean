import Gleaner.Json.Writer
import Gleaner.Yaml.Scalar

/-!
# Writing YAML

Collections are written as blocks, sequences inside mappings without further indentation, empty
collections as brackets. A text is plain where it can be, in single quotes where a plain one would
be misread, in double quotes where characters have to be escaped, and as a literal block where it
has several lines.
-/

namespace Gleaner.Yaml

def isBreak (c : Char) : Bool :=
  c = '\n' || c = '\r' || c.toNat = 0x85 || c.toNat = 0x2028 || c.toNat = 0x2029

/-- Characters that may stand as they are. -/
def isPrintable (c : Char) : Bool :=
  let n := c.toNat
  n = 0x0a || (0x20 ≤ n && n ≤ 0x7e) || (0xa0 ≤ n && n ≠ 0xfeff && n ≠ 0xfffe && n ≠ 0xffff)

/-- A blank, a tab, a line break or the end. -/
def isGap : Option Char → Bool
  | none => true
  | some c => c = ' ' || c = '\t' || isBreak c

/-- A character with its neighbours. -/
structure Place where
  before : Option Char
  char : Char
  after : Option Char

def placesAfter (before : Option Char) : List Char → List Place
  | [] => []
  | c :: rest => ⟨before, c, rest.head?⟩ :: placesAfter (some c) rest

def places (text : List Char) : List Place :=
  placesAfter none text

/-- Whether a character stands where it would be taken for structure. -/
def isIndicator (p : Place) : Bool :=
  match p.before with
  | none =>
    "#,[]\x7b\x7d&*!|>'\"%@`".toList.contains p.char ||
      ((p.char = '?' || p.char = ':' || p.char = '-') && isGap p.after)
  | some before =>
    (p.char = ':' && isGap p.after) || (p.char = '#' && isGap (some before))

def startsLikeMarker : List Char → Bool
  | '-' :: '-' :: '-' :: _ => true
  | '.' :: '.' :: '.' :: _ => true
  | _ => false

/-- The ways to write a text. -/
inductive Style where
  | plain
  | singleQuoted
  | doubleQuoted
  | literal
deriving DecidableEq

/-- Whether characters have to be escaped, or blanks at the end of a line would be lost. -/
def needsEscapes (text : List Char) : Bool :=
  (places text).any fun p =>
    !isPrintable p.char || (p.char = ' ' && p.after.any isBreak)

def hasOuterGap (text : List Char) : Bool :=
  let isOuter (c : Option Char) : Bool := c.any fun c => c = ' ' || isBreak c
  isOuter text.head? || isOuter text.getLast?

def styleOf (text : String) : Style :=
  let chars := text.toList
  if chars.contains '\n' then
    if needsEscapes chars || chars.getLast? = some ' ' then .doubleQuoted else .literal
  else if needsEscapes chars then .doubleQuoted
  else if isAmbiguous text || hasOuterGap chars || chars.any isBreak ||
      startsLikeMarker chars || (places chars).any isIndicator then .singleQuoted
  else .plain

def upperHexDigit (n : Nat) : Char :=
  if n < 10 then Char.ofNat (48 + n) else Char.ofNat (55 + n)

/-- The last `count` hexadecimal digits of a number. -/
def hexDigits : Nat → Nat → List Char
  | 0, _ => []
  | count + 1, n => hexDigits count (n / 16) ++ [upperHexDigit (n % 16)]

def shortEscapes : List (Nat × Char) :=
  [(0x00, '0'), (0x07, 'a'), (0x08, 'b'), (0x09, 't'), (0x0a, 'n'), (0x0b, 'v'), (0x0c, 'f'),
   (0x0d, 'r'), (0x1b, 'e'), (0x22, '"'), (0x5c, '\\'), (0x85, 'N'), (0xa0, '_'), (0x2028, 'L'),
   (0x2029, 'P')]

/-- A character inside double quotes. -/
def escapeChar (c : Char) : List Char :=
  let n := c.toNat
  if isPrintable c && !isBreak c && c ≠ '"' && c ≠ '\\' then [c]
  else
    match shortEscapes.lookup n with
    | some letter => ['\\', letter]
    | none =>
      if n ≤ 0xff then '\\' :: 'x' :: hexDigits 2 n
      else if n ≤ 0xffff then '\\' :: 'u' :: hexDigits 4 n
      else '\\' :: 'U' :: hexDigits 8 n

def inDoubleQuotes (text : String) : String :=
  String.ofList ('"' :: text.toList.flatMap escapeChar ++ ['"'])

/-- A quote inside single quotes is written twice. -/
def inSingleQuotes (text : String) : String :=
  String.ofList
    ('\'' :: (text.toList.flatMap fun c => if c = '\'' then ['\'', '\''] else [c]) ++ ['\''])

/-- Integers and doubles are written as in other documents, but an exponent has no plus sign. -/
def numberStyle : DecimalStyle :=
  { leastPositional := -5, greatestPositional := 15, wholeEnding := ".0", exponentPlus := "" }

def splitLines : List Char → List (List Char)
  | [] => [[]]
  | c :: rest =>
    if c = '\n' then [] :: splitLines rest
    else
      match splitLines rest with
      | [] => [[c]]
      | line :: lines => (c :: line) :: lines

/-- The header of a literal block: a hint if the text begins with a gap, and what becomes of the
line breaks at its end. -/
def literalHeader (text : List Char) : String :=
  let hint := if text.head?.any (fun c => c = ' ' || isBreak c) then "2" else ""
  let ending := match text.reverse with
    | '\n' :: '\n' :: _ => "+"
    | ['\n'] => "+"
    | '\n' :: _ => ""
    | _ => "-"
  "|" ++ hint ++ ending

/-- The lines of a literal block below its header. -/
def literalBody (text : List Char) : List String :=
  let lines := (splitLines text).map String.ofList
  if text.getLast? = some '\n' then lines.dropLast else lines

def indentLine (line : String) : String :=
  if line.isEmpty then line else "  " ++ line

/-- A text on one line. -/
def quoteText (text : String) : String :=
  match styleOf text with
  | .plain => text
  | .singleQuoted => inSingleQuotes text
  | _ => inDoubleQuotes text

/-- Put a mark of two characters in front of the first line and indent the others. -/
def hang (mark : String) : List String → List String
  | [] => [mark]
  | first :: rest => (mark ++ first) :: rest.map indentLine

/-- Whether a key can stand before its colon on one line. -/
def isSimpleKey (key : String) : Bool :=
  key.utf8ByteSize ≤ 128 && styleOf key ≠ .literal && !key.toList.any isBreak

/-- A text as a node: one line, or a literal block. -/
def textLines (text : String) : List String :=
  match styleOf text with
  | .literal => literalHeader text.toList :: literalBody text.toList
  | _ => [quoteText text]

mutual

/-- The lines of a node, relative to the indentation of the block that holds it. The lines of a
literal block below its header still lack their indentation. -/
def nodeLines : Json → List String
  | .array [] => ["[]"]
  | .array items => itemLines items
  | .object [] => ["\x7b\x7d"]
  | .object members => memberLines members
  | .string text => textLines text
  | .float x => [if x.isFinite then numberStyle.write x else "null"]
  | scalar => [scalar.writeScalar]

def itemLines : List Json → List String
  | [] => []
  | v :: rest => hang "- " (nodeLines v) ++ itemLines rest

def memberLines : List (String × Json) → List String
  | [] => []
  | (k, v) :: rest =>
    let value := nodeLines v
    let lines :=
      if isSimpleKey k then
        match v, value with
        | .array (_ :: _), lines => (quoteText k ++ ":") :: lines
        | .object (_ :: _), lines => (quoteText k ++ ":") :: lines.map indentLine
        | _, first :: body => (quoteText k ++ ": " ++ first) :: body.map indentLine
        | _, [] => [quoteText k ++ ":"]
      else hang "? " (textLines k) ++ hang ": " value
    lines ++ memberLines rest

end

/-- The text of a document, with a line break at the end. -/
def write (v : Json) : String :=
  let lines := match v, nodeLines v with
    | .string _, first :: body => first :: body.map indentLine
    | _, lines => lines
  String.join (lines.map (· ++ "\n"))

end Gleaner.Yaml
