import Gleaner.Json.Reader
import Gleaner.Yaml.Node

/-!
# Reading YAML

The reader takes one document of block mappings and sequences, of flow collections, and of plain and
quoted scalars. Structure is told by the column at which a node starts: the entries of a collection
stand at one column, what belongs to an entry stands behind it or further to the right, and a
sequence that is the value of a key may stand at the column of the key. Anchors, tags, explicit keys
and block scalars are refused.
-/

namespace Gleaner.Yaml

/-- What is left of a text: the column at which it starts, and whether nothing but a gap stands
before it on its line. -/
structure Cursor where
  column : Nat
  fresh : Bool
  chars : List Char

def isBlankChar (c : Char) : Bool :=
  c = ' ' || c = '\t'

/-- Whether a blank, a line break or the end comes next. -/
def startsWithGap : List Char → Bool
  | [] => true
  | c :: _ => isBlankChar c || c = '\n'

/-- Skip blanks, comments and line breaks. A comment may start behind a gap only. -/
def skipGapsFrom (column : Nat) (fresh behindGap inComment : Bool) : List Char → Cursor
  | [] => ⟨column, fresh, []⟩
  | c :: rest =>
    if c = '\n' then skipGapsFrom 0 true true false rest
    else if inComment then skipGapsFrom (column + 1) fresh true true rest
    else if isBlankChar c then skipGapsFrom (column + 1) fresh true false rest
    else if c = '#' && behindGap then skipGapsFrom (column + 1) fresh true true rest
    else ⟨column, fresh, c :: rest⟩

/-- Skip to the next token behind the characters of a token that ended at `column`. -/
def skipGaps (column : Nat) (chars : List Char) : Cursor :=
  skipGapsFrom column false false false chars

/-- The next token behind a node, which has to be on a line of its own. -/
def nextLine? (chars : List Char) : Option Cursor :=
  let cursor := skipGaps 0 chars
  if cursor.fresh || cursor.chars.isEmpty then some cursor else none

/-! ### Scalars -/

/-- What stands between two characters of a quoted or plain scalar. -/
inductive Fold where
  /-- Blanks on one line, last first. -/
  | blanks (chars : List Char)
  /-- Line breaks with all blanks around them: one more than the number. -/
  | broken (more : Nat)
  /-- An escaped line break and further ones. -/
  | joined (more : Nat)

namespace Fold

/-- One more blank or line break. -/
def add (c : Char) : Fold → Fold
  | blanks chars => if c = '\n' then broken 0 else blanks (c :: chars)
  | broken more => if c = '\n' then broken (more + 1) else broken more
  | joined more => if c = '\n' then joined (more + 1) else joined more

/-- A single line break is a blank; of several, the first is dropped. -/
def onto (seen : List Char) : Fold → List Char
  | blanks chars => chars ++ seen
  | broken 0 => ' ' :: seen
  | broken more => List.replicate more '\n' ++ seen
  | joined more => List.replicate more '\n' ++ seen

end Fold

/-- Read up to the closing single quote; `seen` holds the characters before, last first. -/
def readSingleQuoted (seen : List Char) (fold : Fold) : List Char → Option (String × List Char)
  | [] => none
  | '\'' :: '\'' :: rest => readSingleQuoted ('\'' :: fold.onto seen) (.blanks []) rest
  | '\'' :: rest => some (String.ofList (fold.onto seen).reverse, rest)
  | c :: rest =>
    if isBlankChar c || c = '\n' then readSingleQuoted seen (fold.add c) rest
    else readSingleQuoted (c :: fold.onto seen) (.blanks []) rest

/-- The character behind a one-letter escape. -/
def shortEscape? (c : Char) : Option Char :=
  match c with
  | '0' => some '\x00'
  | 'a' => some '\x07'
  | 'b' => some '\x08'
  | 't' => some '\t'
  | '\t' => some '\t'
  | 'n' => some '\n'
  | 'v' => some '\x0b'
  | 'f' => some '\x0c'
  | 'r' => some '\r'
  | 'e' => some '\x1b'
  | ' ' => some ' '
  | '"' => some '"'
  | '/' => some '/'
  | '\\' => some '\\'
  | 'N' => some '\u0085'
  | '_' => some '\u00a0'
  | 'L' => some '\u2028'
  | 'P' => some '\u2029'
  | _ => none

/-- The character with a number; half surrogates are none. -/
def charOf? (n : Nat) : Option Char :=
  if n.isValidChar then some (Char.ofNat n) else none

/-- Read up to the closing double quote. -/
def readDoubleQuoted (seen : List Char) (fold : Fold) : List Char → Option (String × List Char)
  | [] => none
  | '"' :: rest => some (String.ofList (fold.onto seen).reverse, rest)
  | '\\' :: '\n' :: rest => readDoubleQuoted (fold.onto seen) (.joined 0) rest
  | '\\' :: 'x' :: a :: b :: rest =>
    match (Json.hexUnit? '0' '0' a b).bind charOf? with
    | none => none
    | some c => readDoubleQuoted (c :: fold.onto seen) (.blanks []) rest
  | '\\' :: 'u' :: a :: b :: c :: d :: rest =>
    match (Json.hexUnit? a b c d).bind charOf? with
    | none => none
    | some c => readDoubleQuoted (c :: fold.onto seen) (.blanks []) rest
  | '\\' :: 'U' :: a :: b :: c :: d :: e :: f :: g :: h :: rest =>
    match Json.hexUnit? a b c d, Json.hexUnit? e f g h with
    | some high, some low =>
      match charOf? (high * 65536 + low) with
      | none => none
      | some c => readDoubleQuoted (c :: fold.onto seen) (.blanks []) rest
    | _, _ => none
  | '\\' :: c :: rest =>
    match shortEscape? c with
    | none => none
    | some c => readDoubleQuoted (c :: fold.onto seen) (.blanks []) rest
  | c :: rest =>
    if isBlankChar c || c = '\n' then readDoubleQuoted seen (fold.add c) rest
    else readDoubleQuoted (c :: fold.onto seen) (.blanks []) rest

/-- A character that ends a plain scalar in a flow collection. -/
def isFlowMark (c : Char) : Bool :=
  c = ',' || c = '[' || c = ']' || c = '{' || c = '}'

/-- Whether a plain scalar may start here. -/
def startsPlain (flow : Bool) : List Char → Bool
  | [] => false
  | c :: rest =>
    if c = '-' || c = '?' || c = ':' then
      !startsWithGap rest && !(flow && rest.head?.any isFlowMark)
    else !("[]\x7b\x7d,#&*!|>'\"%@`".toList.contains c)

/-- Whether a plain scalar ends here: at a colon before a gap, or at a comment behind a blank. -/
def endsPlain (flow behindBlank : Bool) : List Char → Bool
  | [] => true
  | ':' :: rest => startsWithGap rest || (flow && rest.head?.any isFlowMark)
  | '#' :: _ => behindBlank
  | c :: _ => flow && isFlowMark c

/-- Read a plain scalar. On a further line it has to stand at the column `least` or to the right. -/
def readPlainFrom (flow : Bool) (least column : Nat) (seen : List Char) (fold : Fold) :
    List Char → String × List Char
  | [] => (String.ofList seen.reverse, [])
  | c :: rest =>
    let ended := (String.ofList seen.reverse, c :: rest)
    let behindBlank := match fold with
      | .blanks chars => !chars.isEmpty
      | _ => true
    if c = '\n' then
      let (text, after) := readPlainFrom flow least 0 seen (fold.add c) rest
      if text = ended.1 then ended else (text, after)
    else if isBlankChar c then
      let (text, after) := readPlainFrom flow least (column + 1) seen (fold.add c) rest
      if text = ended.1 then ended else (text, after)
    else
      let isOutside := match fold with
        | .blanks _ => false
        | _ => !flow && column < least
      if endsPlain flow behindBlank (c :: rest) || isOutside then ended
      else readPlainFrom flow least (column + 1) (c :: fold.onto seen) (.blanks []) rest

def readPlain (flow : Bool) (least : Nat) (cursor : Cursor) : Option (String × List Char) :=
  if startsPlain flow cursor.chars then
    some (readPlainFrom flow least cursor.column [] (.blanks []) cursor.chars)
  else none

/-- The characters up to the end of the line. -/
def firstLine (chars : List Char) : List Char :=
  chars.takeWhile (· ≠ '\n')

/-- The text behind a colon that ends a key. -/
def behindColon? (chars : List Char) : Option (List Char) :=
  match chars.dropWhile isBlankChar with
  | ':' :: rest => if startsWithGap rest then some rest else none
  | _ => none

/-- Read a key of a block mapping with its colon; all of it stands on one line. -/
def readKey? (cursor : Cursor) : Option (String × List Char) := do
  let line := firstLine cursor.chars
  let (key, rest) ← match line with
    | '"' :: rest => readDoubleQuoted [] (.blanks []) rest
    | '\'' :: rest => readSingleQuoted [] (.blanks []) rest
    | _ => readPlain false 0 { cursor with chars := line }
  let rest ← behindColon? rest
  some (key, rest ++ cursor.chars.drop line.length)

/-! ### Flow collections -/

mutual

/-- Read a node inside a flow collection. `fuel` bounds the number of steps. -/
def readFlowNode : Nat → List Char → Option (Node × List Char)
  | 0, _ => none
  | fuel + 1, chars =>
    match chars with
    | '[' :: rest => (readFlowItems fuel [] (skipGaps 0 rest).chars).map fun (vs, rest) =>
        (.sequence vs, rest)
    | '{' :: rest => (readFlowEntries fuel [] (skipGaps 0 rest).chars).map fun (es, rest) =>
        (.mapping es, rest)
    | '"' :: rest => (readDoubleQuoted [] (.blanks []) rest).map fun (s, rest) => (.quoted s, rest)
    | '\'' :: rest => (readSingleQuoted [] (.blanks []) rest).map fun (s, rest) => (.quoted s, rest)
    | chars => (readPlain true 0 ⟨0, false, chars⟩).map fun (s, rest) => (.plain s, rest)

/-- Read elements up to the closing bracket. -/
def readFlowItems : Nat → List Node → List Char → Option (List Node × List Char)
  | 0, _, _ => none
  | fuel + 1, seen, chars =>
    match chars with
    | ']' :: rest => some (seen.reverse, rest)
    | chars => do
      let (node, rest) ← readFlowNode fuel chars
      let (node, rest) ← match node, (skipGaps 0 rest).chars with
        | .plain key, ':' :: rest => (readFlowValue fuel rest).map fun (v, rest) =>
            (.mapping [(key, v)], rest)
        | .quoted key, ':' :: rest => (readFlowValue fuel rest).map fun (v, rest) =>
            (.mapping [(key, v)], rest)
        | node, rest => some (node, rest)
      match (skipGaps 0 rest).chars with
      | ',' :: rest => readFlowItems fuel (node :: seen) (skipGaps 0 rest).chars
      | ']' :: rest => some ((node :: seen).reverse, rest)
      | _ => none

/-- Read entries up to the closing brace. -/
def readFlowEntries : Nat → List (String × Node) → List Char →
    Option (List (String × Node) × List Char)
  | 0, _, _ => none
  | fuel + 1, seen, chars =>
    match chars with
    | '}' :: rest => some (seen.reverse, rest)
    | chars => do
      let (node, rest) ← readFlowNode fuel chars
      let key ← match node with
        | .plain key => some key
        | .quoted key => some key
        | _ => none
      let (value, rest) ← match (skipGaps 0 rest).chars with
        | ':' :: rest => readFlowValue fuel rest
        | rest => some (.plain "", rest)
      match (skipGaps 0 rest).chars with
      | ',' :: rest => readFlowEntries fuel ((key, value) :: seen) (skipGaps 0 rest).chars
      | '}' :: rest => some (((key, value) :: seen).reverse, rest)
      | _ => none

/-- Read the value behind a colon; it may be left out. -/
def readFlowValue : Nat → List Char → Option (Node × List Char)
  | 0, _ => none
  | fuel + 1, chars =>
    match (skipGaps 0 chars).chars with
    | ',' :: rest => some (.plain "", ',' :: rest)
    | '}' :: rest => some (.plain "", '}' :: rest)
    | ']' :: rest => some (.plain "", ']' :: rest)
    | chars => readFlowNode fuel chars

end

/-! ### Blocks -/

/-- Whether an element of a block sequence starts here. -/
def startsItem : List Char → Bool
  | '-' :: rest => startsWithGap rest
  | _ => false

/-- Read a scalar or a flow collection, and go on to the next line. -/
def readInline (fuel least : Nat) (cursor : Cursor) : Option (Node × Cursor) := do
  let (node, rest) ← match cursor.chars with
    | '[' :: _ => readFlowNode fuel cursor.chars
    | '{' :: _ => readFlowNode fuel cursor.chars
    | '"' :: _ => readFlowNode fuel cursor.chars
    | '\'' :: _ => readFlowNode fuel cursor.chars
    | _ => (readPlain false least cursor).map fun (s, rest) => (.plain s, rest)
  let cursor ← nextLine? rest
  some (node, cursor)

mutual

/-- Read the node that starts at a cursor, all of whose lines stand at the column `least` or to the
right. `fuel` bounds the number of steps. -/
def readBlock : Nat → Nat → Cursor → Option (Node × Cursor)
  | 0, _, _ => none
  | fuel + 1, least, cursor =>
    if startsItem cursor.chars then
      (readBlockItems fuel cursor.column [] cursor).map fun (vs, rest) => (.sequence vs, rest)
    else
      match readKey? cursor with
      | some _ =>
        (readBlockEntries fuel cursor.column [] cursor).map fun (es, rest) => (.mapping es, rest)
      | none => readInline fuel least cursor

/-- Read the elements that stand at a column. -/
def readBlockItems : Nat → Nat → List Node → Cursor → Option (List Node × Cursor)
  | 0, _, _, _ => none
  | fuel + 1, column, seen, cursor => do
    let inner := skipGaps (column + 1) (cursor.chars.drop 1)
    let (node, next) ←
      if inner.chars.isEmpty || (inner.fresh && inner.column ≤ column) then
        some (.plain "", { inner with fresh := true })
      else readBlock fuel (column + 1) inner
    if !next.chars.isEmpty && next.column = column && startsItem next.chars then
      readBlockItems fuel column (node :: seen) next
    else if next.chars.isEmpty || next.column ≤ column then some ((node :: seen).reverse, next)
    else none

/-- Read the entries that stand at a column. -/
def readBlockEntries : Nat → Nat → List (String × Node) → Cursor →
    Option (List (String × Node) × Cursor)
  | 0, _, _, _ => none
  | fuel + 1, column, seen, cursor => do
    let (key, rest) ← readKey? cursor
    let inner := skipGaps (column + 1) rest
    let (node, next) ←
      if inner.chars.isEmpty then some (.plain "", inner)
      else if !inner.fresh then
        if startsItem inner.chars || (readKey? inner).isSome then none
        else readInline fuel (column + 1) inner
      else if column < inner.column then readBlock fuel (column + 1) inner
      else if inner.column = column && startsItem inner.chars then
        (readBlockItems fuel column [] inner).map fun (vs, next) => (.sequence vs, next)
      else some (.plain "", inner)
    if next.chars.isEmpty || next.column < column then some (((key, node) :: seen).reverse, next)
    else if next.column = column then readBlockEntries fuel column ((key, node) :: seen) next
    else none

end

/-! ### Documents -/

/-- Line breaks of any kind as single characters. -/
def plainBreaks : List Char → List Char
  | '\r' :: '\n' :: rest => '\n' :: plainBreaks rest
  | '\r' :: rest => '\n' :: plainBreaks rest
  | c :: rest => c :: plainBreaks rest
  | [] => []

/-- The text behind a marker of three characters at the start of a line. -/
def behindMarker? (mark : Char) : List Char → Option (List Char)
  | a :: b :: c :: rest =>
    if a = mark ∧ b = mark ∧ c = mark ∧ startsWithGap rest then some rest else none
  | _ => none

/-- The text of the only document: what ends at an end marker with nothing behind it. A second start
marker is refused. -/
def soleDocument? (atStart : Bool) : List Char → Option (List Char)
  | [] => some []
  | c :: rest =>
    if atStart && (behindMarker? '-' (c :: rest)).isSome then none
    else if atStart && (behindMarker? '.' (c :: rest)).isSome then
      if (skipGaps 0 (rest.drop 2)).chars.isEmpty then some [] else none
    else (soleDocument? (c = '\n') rest).map (c :: ·)

/-- Read a text that holds one document. A text without any node is an empty plain scalar. -/
def read? (text : String) : Option Node := do
  let start := skipGapsFrom 0 true true false (plainBreaks text.toList)
  let isMarked := start.column = 0 && (behindMarker? '-' start.chars).isSome
  let chars ← soleDocument? (!isMarked) (if isMarked then start.chars.drop 3 else start.chars)
  let cursor := skipGapsFrom start.column (!isMarked) true false chars
  if cursor.chars.isEmpty then some (.plain "")
  else
    let fuel := 2 * chars.length + 2
    let (node, rest) ←
      if cursor.fresh then readBlock fuel 0 cursor
      else if startsItem cursor.chars || (readKey? cursor).isSome then none
      else readInline fuel 0 cursor
    if rest.chars.isEmpty then some node else none

/-- Read the value of a document. -/
def readJson? (text : String) : Option Json :=
  (read? text).bind fun node => (node.toJsonAs? .any maxLevels).map Json.settled

end Gleaner.Yaml
