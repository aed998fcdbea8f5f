import Gleaner.Json.Reader
import Gleaner.Toml.Table
import Gleaner.Yaml.Scalar

/-!
# Reading TOML

A document is a list of lines, each a header, a key with its value, or neither. Values are texts in
four kinds of quotes, integers that fit a word, doubles, truth values, arrays and inline tables.
Dates are refused.
-/

namespace Gleaner.Toml

def isBlankChar (c : Char) : Bool :=
  c = ' ' || c = '\t'

def skipBlanks (chars : List Char) : List Char :=
  chars.dropWhile isBlankChar

/-- Skip blanks, comments and line breaks. -/
def skipLines (inComment : Bool) : List Char → List Char
  | [] => []
  | c :: rest =>
    if c = '\n' then skipLines false rest
    else if inComment || isBlankChar c || (c = '\r' && rest.head? = some '\n') then
      skipLines inComment rest
    else if c = '#' then skipLines true rest
    else c :: rest

/-- What follows the line that ends here, with or without a comment. -/
def endLine? (chars : List Char) : Option (List Char) :=
  match skipBlanks chars with
  | [] => some []
  | '\n' :: rest => some rest
  | '\r' :: '\n' :: rest => some rest
  | '#' :: rest => some (rest.dropWhile (· ≠ '\n'))
  | _ => none

/-! ### Texts -/

/-- Read up to the closing quote on the same line. -/
def readLiteral (seen : List Char) : List Char → Option (String × List Char)
  | [] => none
  | '\'' :: rest => some (String.ofList seen.reverse, rest)
  | c :: rest => if c = '\n' then none else readLiteral (c :: seen) rest

/-- Read up to the three closing quotes; up to two more belong to the text. -/
def readLongLiteral (seen : List Char) : List Char → Option (String × List Char)
  | [] => none
  | '\'' :: '\'' :: '\'' :: '\'' :: '\'' :: rest =>
    some (String.ofList ('\'' :: '\'' :: seen).reverse, rest)
  | '\'' :: '\'' :: '\'' :: '\'' :: rest => some (String.ofList ('\'' :: seen).reverse, rest)
  | '\'' :: '\'' :: '\'' :: rest => some (String.ofList seen.reverse, rest)
  | c :: rest => readLongLiteral (c :: seen) rest

/-- The character behind a one-letter escape. -/
def shortEscape? (c : Char) : Option Char :=
  match c with
  | 'b' => some '\x08'
  | 't' => some '\t'
  | 'n' => some '\n'
  | 'f' => some '\x0c'
  | 'r' => some '\r'
  | '"' => some '"'
  | '\\' => some '\\'
  | _ => none

def charOf? (n : Nat) : Option Char :=
  if n.isValidChar then some (Char.ofNat n) else none

/-- Read up to the closing quotes, one or three. `trimming` tells that blanks and line breaks are
skipped, behind a backslash at the end of a line. -/
def readBasic (long trimming : Bool) (seen : List Char) : List Char → Option (String × List Char)
  | [] => none
  | '\\' :: 'u' :: a :: b :: c :: d :: rest =>
    match (Json.hexUnit? a b c d).bind charOf? with
    | none => none
    | some c => readBasic long false (c :: seen) rest
  | '\\' :: 'U' :: a :: b :: c :: d :: e :: f :: g :: h :: rest =>
    match Json.hexUnit? a b c d, Json.hexUnit? e f g h with
    | some high, some low =>
      match charOf? (high * 65536 + low) with
      | none => none
      | some c => readBasic long false (c :: seen) rest
    | _, _ => none
  | '\\' :: c :: rest =>
    match shortEscape? c with
    | some c => readBasic long false (c :: seen) rest
    | none =>
      if long && (c = '\n' || c = '\r' || isBlankChar c) && (skipBlanks (c :: rest)).head?.any
          (fun c => c = '\n' || c = '\r') then
        readBasic long true seen rest
      else none
  | '"' :: rest =>
    if !long then some (String.ofList seen.reverse, rest)
    else
      match rest with
      | '"' :: '"' :: '"' :: '"' :: rest => some (String.ofList ('"' :: '"' :: seen).reverse, rest)
      | '"' :: '"' :: '"' :: rest => some (String.ofList ('"' :: seen).reverse, rest)
      | '"' :: '"' :: rest => some (String.ofList seen.reverse, rest)
      | rest => readBasic long false ('"' :: seen) rest
  | c :: rest =>
    if trimming && (isBlankChar c || c = '\n' || c = '\r') then readBasic long true seen rest
    else if c = '\n' && !long then none
    else if c.toNat < 0x20 && !isBlankChar c && c ≠ '\n' && c ≠ '\r' then none
    else readBasic long false (c :: seen) rest

/-- A line break behind three opening quotes does not belong to the text. -/
def dropBreak : List Char → List Char
  | '\n' :: rest => rest
  | '\r' :: '\n' :: rest => rest
  | rest => rest

/-- Read a text on one line. -/
def readShortText? : List Char → Option (String × List Char)
  | '"' :: rest => readBasic false false [] rest
  | '\'' :: rest => readLiteral [] rest
  | _ => none

def readText? : List Char → Option (String × List Char)
  | '"' :: '"' :: '"' :: rest => readBasic true false [] (dropBreak rest)
  | '\'' :: '\'' :: '\'' :: rest => readLongLiteral [] (dropBreak rest)
  | chars => readShortText? chars

/-! ### Keys -/

def isBareChar (c : Char) : Bool :=
  c.isAlphanum || c = '_' || c = '-'

/-- Read one part of a key. -/
def readPart? (chars : List Char) : Option (String × List Char) :=
  match readShortText? chars with
  | some part => some part
  | none =>
    let part := chars.takeWhile isBareChar
    if part.isEmpty then none else some (String.ofList part, chars.dropWhile isBareChar)

/-- Read a key with its parts between dots. `fuel` bounds their number. -/
def readKey? : Nat → List Char → Option (List String × List Char)
  | 0, _ => none
  | fuel + 1, chars => do
    let (part, rest) ← readPart? (skipBlanks chars)
    match skipBlanks rest with
    | '.' :: rest => (readKey? fuel rest).map fun (parts, rest) => (part :: parts, rest)
    | rest => some ([part], rest)

/-! ### Values -/

/-- Drop underscores, each of which has to stand between two digits. -/
def withoutUnderscores? : List Char → Option (List Char)
  | [] => some []
  | a :: '_' :: b :: rest =>
    if a.isAlphanum && b.isAlphanum then (withoutUnderscores? (b :: rest)).map (a :: ·) else none
  | '_' :: _ => none
  | [_, '_'] => none
  | c :: rest => (withoutUnderscores? rest).map (c :: ·)

/-- Whether the digits of a decimal have no idle zero in front. -/
def hasPlainDigits (chars : List Char) : Bool :=
  let digits := match chars with
    | '+' :: rest => rest
    | '-' :: rest => rest
    | other => other
  match digits with
  | '0' :: c :: _ => !c.isDigit
  | c :: _ => c.isDigit
  | [] => false

/-- Whether every point has digits on both sides. -/
def hasPlainPoint : List Char → Bool
  | a :: '.' :: b :: rest => a.isDigit && b.isDigit && hasPlainPoint (b :: rest)
  | '.' :: _ => false
  | [_, '.'] => false
  | _ :: rest => hasPlainPoint rest
  | [] => true

/-- The number that a numeral denotes. Integers have to fit a signed word. -/
def number? (chars : List Char) : Option Json := do
  let plain ← withoutUnderscores? chars
  if [['i', 'n', 'f'], ['n', 'a', 'n']].contains (plain.dropWhile fun c => c = '+' || c = '-') then
    some (.float ⟨UInt64.ofNat Binary64.infinityBits⟩)
  else
    match plain with
    | '0' :: 'x' :: digits => (Yaml.digitsIn? 16 digits).bind word?
    | '0' :: 'o' :: digits => (Yaml.digitsIn? 8 digits).bind word?
    | '0' :: 'b' :: digits => (Yaml.digitsIn? 2 digits).bind word?
    | plain =>
      if !hasPlainDigits plain then none
      else
        match Numeral.readInt? plain with
        | some n => if Numeral.fitsWord n then some (.int n) else none
        | none => if hasPlainPoint plain then (Yaml.decimal? plain).map .float else none
where
  word? (n : Nat) : Option Json :=
    if Numeral.fitsWord n then some (.int n) else none

def isNumeralChar (c : Char) : Bool :=
  c.isAlphanum || c = '+' || c = '-' || c = '.' || c = '_'

/-- The value that a bare word denotes. -/
def word? (chars : List Char) : Option Json :=
  match chars with
  | ['t', 'r', 'u', 'e'] => some (.bool true)
  | ['f', 'a', 'l', 's', 'e'] => some (.bool false)
  | chars => number? chars

mutual

/-- Read a value. `fuel` bounds the number of steps. -/
def readValue : Nat → List Char → Option (Json × List Char)
  | 0, _ => none
  | fuel + 1, chars =>
    match chars with
    | '[' :: rest =>
      (readItems fuel [] (skipLines false rest)).map fun (vs, rest) => (.array vs, rest)
    | '{' :: rest =>
      match skipBlanks rest with
      | '}' :: rest => some (.object [], rest)
      | rest => (readEntries fuel [] rest).map fun (t, rest) => (t.toJson, rest)
    | '"' :: rest => (readText? ('"' :: rest)).map fun (s, rest) => (.string s, rest)
    | '\'' :: rest => (readText? ('\'' :: rest)).map fun (s, rest) => (.string s, rest)
    | chars =>
      (word? (chars.takeWhile isNumeralChar)).map fun v => (v, chars.dropWhile isNumeralChar)

/-- Read elements up to the closing bracket. -/
def readItems : Nat → List Json → List Char → Option (List Json × List Char)
  | 0, _, _ => none
  | fuel + 1, seen, chars =>
    match chars with
    | ']' :: rest => some (seen.reverse, rest)
    | chars => do
      let (v, rest) ← readValue fuel chars
      match skipLines false rest with
      | ',' :: rest => readItems fuel (v :: seen) (skipLines false rest)
      | ']' :: rest => some ((v :: seen).reverse, rest)
      | _ => none

/-- Read the entries of an inline table up to the closing brace. -/
def readEntries : Nat → Table → List Char → Option (Table × List Char)
  | 0, _, _ => none
  | fuel + 1, t, chars => do
    let (path, key, v, rest) ← readEntry fuel chars
    let t ← t.assign key v path
    match skipBlanks rest with
    | ',' :: rest => readEntries fuel t (skipBlanks rest)
    | '}' :: rest => some (t, rest)
    | _ => none

/-- Read a key and its value; the last part of the key is given apart. -/
def readEntry : Nat → List Char → Option (List String × String × Json × List Char)
  | 0, _ => none
  | fuel + 1, chars => do
    let (parts, rest) ← readKey? (chars.length + 1) chars
    let key ← parts.getLast?
    match rest with
    | '=' :: rest =>
      let (v, rest) ← readValue fuel (skipBlanks rest)
      some (parts.dropLast, key, v, rest)
    | _ => none

end

/-! ### Documents -/

/-- Read lines into the table of the document; `path` is that of the header above. `fuel` bounds the
number of steps. -/
def readLines : Nat → List String → Table → List Char → Option Table
  | 0, _, _, _ => none
  | fuel + 1, path, t, chars =>
    match skipLines false chars with
    | [] => some t
    | '[' :: '[' :: rest => do
      let (parts, rest) ← readKey? (rest.length + 1) rest
      let key ← parts.getLast?
      match rest with
      | ']' :: ']' :: rest =>
        readLines fuel parts (← t.change (Table.addElement key) parts.dropLast) (← endLine? rest)
      | _ => none
    | '[' :: rest => do
      let (parts, rest) ← readKey? (rest.length + 1) rest
      let key ← parts.getLast?
      match rest with
      | ']' :: rest =>
        readLines fuel parts (← t.change (Table.define key) parts.dropLast) (← endLine? rest)
      | _ => none
    | chars => do
      let (inner, key, v, rest) ← readEntry (2 * chars.length + 2) chars
      readLines fuel path (← t.change (Table.assign key v inner) path) (← endLine? rest)

def readJson? (text : String) : Option Json :=
  let chars := text.toList
  (readLines (chars.length + 1) [] [] chars).map Table.toJson

end Gleaner.Toml
