import Gleaner.Json.Basic

/-!
# Reading documents

The reader accepts exactly one value with blanks around it. It refuses control characters inside
quotes, half surrogates, numerals with idle zeros, numbers beyond the largest double and documents
nested deeper than a limit. Members are read as they are written and settled afterwards.
-/

namespace Gleaner.Json

def isBlankChar (c : Char) : Bool :=
  c = ' ' || c = '\n' || c = '\t' || c = '\r'

def skipBlanks (text : List Char) : List Char :=
  text.dropWhile isBlankChar

def hexValue? (c : Char) : Option Nat :=
  if '0' ≤ c ∧ c ≤ '9' then some (c.toNat - 48)
  else if 'a' ≤ c ∧ c ≤ 'f' then some (c.toNat - 87)
  else if 'A' ≤ c ∧ c ≤ 'F' then some (c.toNat - 55)
  else none

/-- The number that four hexadecimal digits denote. -/
def hexUnit? (a b c d : Char) : Option Nat := do
  some (((← hexValue? a) * 16 + (← hexValue? b)) * 256 + (← hexValue? c) * 16 + (← hexValue? d))

def isHighSurrogate (unit : Nat) : Bool :=
  0xd800 ≤ unit && unit < 0xdc00

def isLowSurrogate (unit : Nat) : Bool :=
  0xdc00 ≤ unit && unit < 0xe000

/-- The character behind a one-letter escape. -/
def shortEscape? (c : Char) : Option Char :=
  match c with
  | '"' => some '"'
  | '\\' => some '\\'
  | '/' => some '/'
  | 'b' => some '\x08'
  | 'f' => some '\x0c'
  | 'n' => some '\n'
  | 'r' => some '\r'
  | 't' => some '\t'
  | _ => none

/-- Read up to the closing quote; `seen` holds the characters before, last first. -/
def readQuoted (seen : List Char) : List Char → Option (String × List Char)
  | [] => none
  | '"' :: rest => some (String.ofList seen.reverse, rest)
  | '\\' :: 'u' :: a :: b :: c :: d :: rest =>
    match hexUnit? a b c d with
    | none => none
    | some unit =>
      if isLowSurrogate unit then none
      else if isHighSurrogate unit then
        match rest with
        | '\\' :: 'u' :: e :: f :: g :: h :: rest =>
          match hexUnit? e f g h with
          | none => none
          | some low =>
            if isLowSurrogate low then
              let c := Char.ofNat (0x10000 + (unit - 0xd800) * 1024 + (low - 0xdc00))
              readQuoted (c :: seen) rest
            else none
        | _ => none
      else readQuoted (Char.ofNat unit :: seen) rest
  | '\\' :: c :: rest =>
    match shortEscape? c with
    | none => none
    | some c => readQuoted (c :: seen) rest
  | c :: rest => if c.toNat < 0x20 then none else readQuoted (c :: seen) rest

def digitsValue (digits : List Char) : Nat :=
  digits.foldl (fun acc c => 10 * acc + (c.toNat - 48)) 0

/-- A numeral taken apart. -/
structure Parts where
  negative : Bool
  whole : List Char
  fraction : Option (List Char)
  exponent : Option Int

/-- Read an exponent behind its letter. -/
def readExponent (text : List Char) : Option (Int × List Char) :=
  let (negative, text) := match text with
    | '-' :: rest => (true, rest)
    | '+' :: rest => (false, rest)
    | other => (false, other)
  let digits := text.takeWhile Char.isDigit
  if digits.isEmpty then none
  else
    let size : Int := digitsValue digits
    some (if negative then -size else size, text.dropWhile Char.isDigit)

/-- Read the parts of a numeral. -/
def readParts (text : List Char) : Option (Parts × List Char) := do
  let (negative, text) := match text with
    | '-' :: rest => (true, rest)
    | other => (false, other)
  let whole := text.takeWhile Char.isDigit
  let text := text.dropWhile Char.isDigit
  if whole.isEmpty || (1 < whole.length && whole.head? = some '0') then none
  else
    let (fraction, text) ← match text with
      | '.' :: rest =>
        let digits := rest.takeWhile Char.isDigit
        if digits.isEmpty then none else some (some digits, rest.dropWhile Char.isDigit)
      | other => some (none, other)
    let (exponent, text) ← match text with
      | c :: rest =>
        if c = 'e' || c = 'E' then (readExponent rest).map fun (e, rest) => (some e, rest)
        else some (none, c :: rest)
      | [] => some (none, [])
    some (⟨negative, whole, fraction, exponent⟩, text)

/-- Append digits to a number as long as it fits a word; the digits that are left are given too. -/
def appendDigits (n : Nat) : List Char → Nat × List Char
  | [] => (n, [])
  | c :: rest =>
    let next := 10 * n + (c.toNat - 48)
    if next < Nat.pow 2 64 then appendDigits next rest else (n, c :: rest)

/-- The double that a numeral denotes; none when it is too large. Only the digits that fit a word
count, and they are rounded before they are scaled. -/
def floatOfParts? (p : Parts) : Option Json :=
  let fraction := p.fraction.getD []
  let (whole, wholeLeft) := appendDigits 0 p.whole
  let (digits, fractionLeft) := appendDigits whole fraction
  let exponent : Int := p.exponent.getD 0 + wholeLeft.length -
    (fraction.length - fractionLeft.length : Nat)
  if digits = 0 then some (float (Binary64.ofSizeBits p.negative 0))
  else if 308 < exponent then none
  else
    let x := Binary64.scaledSize digits exponent
    if x.isFinite then some (float (x.withSign p.negative)) else none

/-- An integer numeral denotes an integer if it fits a word; all other numerals denote doubles. -/
def numberOfParts? (p : Parts) : Option Json :=
  let size : Int := digitsValue p.whole
  let value : Int := if p.negative then -size else size
  let isWord :=
    if p.negative then size ≠ 0 ∧ -(Nat.pow 2 63 : Int) ≤ value
    else value < (Nat.pow 2 64 : Int)
  if p.fraction.isNone ∧ p.exponent.isNone ∧ isWord then some (int value) else floatOfParts? p

def readNumber (text : List Char) : Option (Json × List Char) := do
  let (parts, rest) ← readParts text
  let value ← numberOfParts? parts
  some (value, rest)

/-- Read elements up to the closing bracket. `fuel` bounds their number. -/
def readItems (item : List Char → Option (Json × List Char)) :
    Nat → List Char → Option (List Json × List Char)
  | 0, _ => none
  | fuel + 1, text => do
    let (v, text) ← item text
    match skipBlanks text with
    | ',' :: rest => (readItems item fuel rest).map fun (vs, rest) => (v :: vs, rest)
    | ']' :: rest => some ([v], rest)
    | _ => none

/-- Read members up to the closing brace. `fuel` bounds their number. -/
def readMembers (item : List Char → Option (Json × List Char)) :
    Nat → List Char → Option (List (String × Json) × List Char)
  | 0, _ => none
  | fuel + 1, text => do
    match skipBlanks text with
    | '"' :: text =>
      let (k, text) ← readQuoted [] text
      match skipBlanks text with
      | ':' :: text =>
        let (v, text) ← item text
        match skipBlanks text with
        | ',' :: rest => (readMembers item fuel rest).map fun (ms, rest) => ((k, v) :: ms, rest)
        | '}' :: rest => some ([(k, v)], rest)
        | _ => none
      | _ => none
    | _ => none

/-- Read one value, nested at most `levels` deep. -/
def readValue : Nat → List Char → Option (Json × List Char)
  | levels, text =>
    match skipBlanks text with
    | '"' :: rest => (readQuoted [] rest).map fun (s, rest) => (string s, rest)
    | 'n' :: 'u' :: 'l' :: 'l' :: rest => some (null, rest)
    | 't' :: 'r' :: 'u' :: 'e' :: rest => some (bool true, rest)
    | 'f' :: 'a' :: 'l' :: 's' :: 'e' :: rest => some (bool false, rest)
    | '[' :: rest =>
      match levels with
      | 0 => none
      | levels + 1 =>
        match skipBlanks rest with
        | ']' :: rest => some (array [], rest)
        | _ => (readItems (readValue levels) (rest.length + 1) rest).map
            fun (vs, rest) => (array vs, rest)
    | '{' :: rest =>
      match levels with
      | 0 => none
      | levels + 1 =>
        match skipBlanks rest with
        | '}' :: rest => some (object [], rest)
        | _ => (readMembers (readValue levels) (rest.length + 1) rest).map
            fun (ms, rest) => (object ms, rest)
    | text => readNumber text

/-- Read a text that holds one value, nested at most `levels` deep, with all members as written. -/
def readAsWritten? (levels : Nat) (text : String) : Option Json :=
  match readValue levels text.toList with
  | some (v, rest) => if (skipBlanks rest).isEmpty then some v else none
  | none => none

/-- Read a text that holds one value, nested at most `levels` deep. -/
def readWithin? (levels : Nat) (text : String) : Option Json :=
  (readAsWritten? levels text).map settled

/-- Documents may be nested this many levels deep. -/
def maxLevels : Nat := 127

def read? (text : String) : Option Json :=
  readWithin? maxLevels text

end Gleaner.Json
