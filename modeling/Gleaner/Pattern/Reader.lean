import Gleaner.Pattern.Basic

/-!
# Reading patterns

A pattern is read from left to right with the flags that are in force: they hold from where they are
set to the end of the group. Everything that is not understood is refused: look-around, references
to groups, unknown escapes, operators with nothing to repeat, brackets left open, and patterns whose
repetitions make them too large.
-/

namespace Gleaner.Pattern

/-- What changes the reading of a pattern. -/
structure Flags where
  caseless : Bool
  multiLine : Bool
  dotAll : Bool
  verbose : Bool
  anyLine : Bool
  wide : Bool
deriving Inhabited

namespace Flags

/-- Only the full character set is in force at the start. -/
def standard : Flags :=
  { caseless := false, multiLine := false, dotAll := false, verbose := false, anyLine := false,
    wide := true }

/-- Set or clear the flag with a letter; `U` only changes preferences among matches. -/
def set? (flags : Flags) (letter : Char) (value : Bool) : Option Flags :=
  match letter with
  | 'i' => some { flags with caseless := value }
  | 'm' => some { flags with multiLine := value }
  | 's' => some { flags with dotAll := value }
  | 'x' => some { flags with verbose := value }
  | 'R' => some { flags with anyLine := value }
  | 'u' => some { flags with wide := value }
  | 'U' => some flags
  | _ => none

def fold (flags : Flags) (set : CharSet) : CharSet :=
  if !flags.caseless then set else if flags.wide then .caseless set else .asciiCaseless set

/-- The complement of a set; without the full character set it would hold parts of characters. -/
def complement? (flags : Flags) (negated : Bool) (set : CharSet) : Option CharSet :=
  if !negated then some set else if flags.wide then some (.complement set) else none

end Flags

/-- Drop a comment up to the end of its line. -/
def dropComment : List Char → List Char
  | [] => []
  | c :: rest => if c = '\n' then rest else dropComment rest

theorem length_dropComment (text : List Char) : (dropComment text).length ≤ text.length := by
  induction text with
  | nil => simp [dropComment]
  | cons c rest ih =>
    simp only [dropComment]
    split
    · simp
    · simp only [List.length_cons]; omega

/-- Skip white space and comments where the verbose flag allows them. -/
def skipIdle (flags : Flags) (text : List Char) : List Char :=
  if flags.verbose then skip text else text
where
  skip : List Char → List Char
    | [] => []
    | c :: rest =>
      if Text.isSpace c then skip rest
      else if c = '#' then skip (dropComment rest)
      else c :: rest
  termination_by text => text.length
  decreasing_by
    · simp
    · simp only [List.length_cons]
      have := length_dropComment rest
      omega

/-! ### Escapes -/

/-- What an escape stands for. -/
inductive Escape where
  | literal (c : Char)
  | set (s : CharSet)
  | boundary (b : Boundary)

def hexValue? (c : Char) : Option Nat :=
  if '0' ≤ c ∧ c ≤ '9' then some (c.toNat - 48)
  else if 'a' ≤ c ∧ c ≤ 'f' then some (c.toNat - 87)
  else if 'A' ≤ c ∧ c ≤ 'F' then some (c.toNat - 55)
  else none

/-- The character with a hexadecimal number. -/
def charOfHex? (digits : List Char) : Option Char := do
  if digits.isEmpty then none
  else
    let n ← digits.foldlM (fun acc c => (hexValue? c).map (16 * acc + ·)) 0
    if n.isValidChar then some (Char.ofNat n) else none

/-- Read a character number: in braces, or of a fixed length. -/
def readHex (flags : Flags) (length : Nat) (text : List Char) : Option (Char × List Char) :=
  match skipIdle flags text with
  | '{' :: rest => do
    let digits := (rest.takeWhile (· ≠ '}')).filter fun c => !(flags.verbose && Text.isSpace c)
    match rest.dropWhile (· ≠ '}') with
    | '}' :: rest => (charOfHex? digits).map fun c => (c, rest)
    | _ => none
  | text =>
    if text.length < length then none
    else (charOfHex? (text.take length)).map fun c => (c, text.drop length)

/-- The basic sets behind `d`, `s` and `w`. -/
def basicSet? (flags : Flags) (letter : Char) : Option CharSet :=
  match letter with
  | 'd' => some (if flags.wide then .property Text.Property.digit else .range 48 57)
  | 's' => some (if flags.wide then .property Text.Property.space
      else .union (.range 9 13) (.range 32 32))
  | 'w' => some (if flags.wide then .property Text.Property.word
      else .union (.range 48 57) (.union (.range 65 90) (.union (.range 95 95) (.range 97 122))))
  | _ => none

def wordSet (flags : Flags) : CharSet :=
  (basicSet? flags 'w').getD .none

/-- Split a property's name from its value, at `=`, `:` or `!=`. -/
def splitProperty : List Char → Option (List Char × Bool × List Char)
  | [] => none
  | '!' :: '=' :: rest => some ([], true, rest)
  | '=' :: rest => some ([], false, rest)
  | ':' :: rest => some ([], false, rest)
  | c :: rest => (splitProperty rest).map fun (name, negated, value) => (c :: name, negated, value)

/-- Read a property, by one letter or by a name in braces. -/
def readProperty (flags : Flags) (negated : Bool) (text : List Char) :
    Option (CharSet × List Char) := do
  let (property, flipped, rest) ← match skipIdle flags text with
    | '{' :: rest =>
      let name := rest.takeWhile (· ≠ '}')
      match rest.dropWhile (· ≠ '}') with
      | '}' :: rest =>
        match splitProperty name with
        | some (name, negated, value) =>
          (Text.Property.ofNameValue? (String.ofList name) (String.ofList value)).map
            fun p => (p, negated, rest)
        | none => (Text.Property.ofName? (String.ofList name)).map fun p => (p, false, rest)
      | _ => none
    | c :: rest => (Text.Property.ofName? (String.ofList [c])).map fun p => (p, false, rest)
    | [] => none
  if !flags.wide then none
  else
    let set ← flags.complement? (negated != flipped) (flags.fold (.property property))
    some (set, rest)

def wordBoundaryNames : List (String × (CharSet → Boundary)) :=
  [("start", .wordStart), ("end", .wordEnd), ("start-half", .wordStartHalf),
   ("end-half", .wordEndHalf)]

/-- Read what follows `\b`: a name in braces, or nothing. A brace that cannot begin a name belongs
to a repetition. -/
def readWordBoundary (flags : Flags) (text : List Char) : Option (Boundary × List Char) :=
  let isNameChar (c : Char) : Bool := c.isAlpha || c = '-'
  match text with
  | '{' :: rest =>
    match skipIdle flags rest with
    | c :: more =>
      if isNameChar c then
        let name := (c :: more).takeWhile isNameChar
        match skipIdle flags ((c :: more).dropWhile isNameChar) with
        | '}' :: rest =>
          (wordBoundaryNames.lookup (String.ofList name)).map fun b => (b (wordSet flags), rest)
        | _ => none
      else some (.wordEdge (wordSet flags), text)
    | [] => none
  | _ => some (.wordEdge (wordSet flags), text)

/-- Whether a character may be escaped to stand for itself. -/
def isPlainEscape (c : Char) : Bool :=
  c.toNat < 128 && !c.isAlphanum && c ≠ '<' && c ≠ '>'

/-- Read an escape behind its backslash. -/
def readEscape (flags : Flags) : List Char → Option (Escape × List Char)
  | [] => none
  | c :: rest =>
    match c with
    | 'x' => (readHex flags 2 rest).map fun (c, rest) => (.literal c, rest)
    | 'u' => (readHex flags 4 rest).map fun (c, rest) => (.literal c, rest)
    | 'U' => (readHex flags 8 rest).map fun (c, rest) => (.literal c, rest)
    | 'p' => (readProperty flags false rest).map fun (s, rest) => (.set s, rest)
    | 'P' => (readProperty flags true rest).map fun (s, rest) => (.set s, rest)
    | 'a' => some (.literal '\x07', rest)
    | 'f' => some (.literal '\x0c', rest)
    | 't' => some (.literal '\t', rest)
    | 'n' => some (.literal '\n', rest)
    | 'r' => some (.literal '\r', rest)
    | 'v' => some (.literal '\x0b', rest)
    | 'A' => some (.boundary .textStart, rest)
    | 'z' => some (.boundary .textEnd, rest)
    | 'b' => (readWordBoundary flags rest).map fun (b, rest) => (.boundary b, rest)
    | 'B' => some (.boundary (.noWordEdge (wordSet flags)), rest)
    | '<' => some (.boundary (.wordStart (wordSet flags)), rest)
    | '>' => some (.boundary (.wordEnd (wordSet flags)), rest)
    | c =>
      match basicSet? flags c with
      | some set => some (.set set, rest)
      | none =>
        if c = 'D' ∨ c = 'S' ∨ c = 'W' then do
          let set ← flags.complement? true ((basicSet? flags c.toLower).getD .none)
          some (.set set, rest)
        else if isPlainEscape c then some (.literal c, rest)
        else none

/-! ### Brackets -/

/-- The named sets of the basic alphabet. -/
def asciiSets : List (String × CharSet) :=
  let digits := CharSet.range 48 57
  let uppers := CharSet.range 65 90
  let lowers := CharSet.range 97 122
  [("alnum", .union digits (.union uppers lowers)),
   ("alpha", .union uppers lowers),
   ("ascii", .range 0 127),
   ("blank", .union (.range 9 9) (.range 32 32)),
   ("cntrl", .union (.range 0 31) (.range 127 127)),
   ("digit", digits),
   ("graph", .range 33 126),
   ("lower", lowers),
   ("print", .range 32 126),
   ("punct",
    .union (.range 33 47) (.union (.range 58 64) (.union (.range 91 96) (.range 123 126)))),
   ("space", .union (.range 9 13) (.range 32 32)),
   ("upper", uppers),
   ("word", .union digits (.union uppers (.union (.range 95 95) lowers))),
   ("xdigit", .union digits (.union (.range 65 70) (.range 97 102)))]

/-- Read a named set behind its opening bracket and colon. -/
def readAsciiSet (flags : Flags) (text : List Char) : Option (CharSet × List Char) := do
  let (negated, text) := match text with
    | '^' :: rest => (true, rest)
    | other => (false, other)
  match text.dropWhile (· ≠ ':') with
  | ':' :: ']' :: rest =>
    let set ← asciiSets.lookup (String.ofList (text.takeWhile (· ≠ ':')))
    let set ← flags.complement? negated (flags.fold set)
    some (set, rest)
  | _ => none

/-- How two sets in brackets are joined. -/
inductive SetOperator where
  | common
  | difference
  | oneOnly

def SetOperator.apply (flags : Flags) (operator : SetOperator) (a b : CharSet) : CharSet :=
  match operator with
  | common => .common (flags.fold a) (flags.fold b)
  | difference => .difference (flags.fold a) (flags.fold b)
  | oneOnly => .oneOnly (flags.fold a) (flags.fold b)

/-- The contents of brackets as far as they are read: a joined part that waits for its right-hand
side, and the items since. -/
structure BracketState where
  pending : Option (CharSet × SetOperator)
  items : CharSet

def BracketState.joined (flags : Flags) (state : BracketState) : CharSet :=
  match state.pending with
  | some (left, operator) => operator.apply flags left state.items
  | none => state.items

def BracketState.push (set : CharSet) (state : BracketState) : BracketState :=
  { state with items := .union state.items set }

/-- Read one member: an escape or a character. -/
def readMember (flags : Flags) : List Char → Option (Escape × List Char)
  | [] => none
  | '\\' :: rest => readEscape flags rest
  | c :: rest => some (.literal c, rest)

/-- Read a range or a single member. -/
def readRange (flags : Flags) (text : List Char) : Option (CharSet × List Char) := do
  let (first, text) ← readMember flags text
  let single : Option CharSet := match first with
    | .literal c => some (.single c)
    | .set s => some s
    | .boundary _ => none
  match skipIdle flags text with
  | [] => none
  | '-' :: rest =>
    match skipIdle flags rest with
    | ']' :: _ => single.map fun s => (s, '-' :: rest)
    | '-' :: _ => single.map fun s => (s, '-' :: rest)
    | rest =>
      let (last, rest) ← readMember flags rest
      match first, last with
      | .literal a, .literal b => if a ≤ b then some (.range a.toNat b.toNat, rest) else none
      | _, _ => none
  | text => single.map fun s => (s, text)

/-- Read the hyphens, or the closing bracket, that stand for themselves at the start of brackets. -/
def readLeading : BracketState → List Char → BracketState × List Char
  | state, '-' :: rest => readLeading (state.push (.single '-')) rest
  | state, text => (state, text)

/-- Read the negation and the leading members of brackets. -/
def openBracket (flags : Flags) (text : List Char) : Bool × BracketState × List Char :=
  let (negated, text) := match skipIdle flags text with
    | '^' :: rest => (true, skipIdle flags rest)
    | other => (false, other)
  let (state, rest) := readLeading ⟨none, .none⟩ text
  match state.items, rest with
  | .none, ']' :: rest => (negated, state.push (.single ']'), rest)
  | _, rest => (negated, state, rest)

/-- Read brackets up to the closing one. `fuel` bounds the number of members. -/
def readBracket (flags : Flags) :
    Nat → Bool → BracketState → List Char → Option (CharSet × List Char)
  | 0, _, _, _ => none
  | fuel + 1, negated, state, text =>
    let continueWith (operator : SetOperator) (rest : List Char) :=
      readBracket flags fuel negated ⟨some (state.joined flags, operator), .none⟩ rest
    match skipIdle flags text with
    | [] => none
    | ']' :: rest =>
      (flags.complement? negated (flags.fold (state.joined flags))).map fun set => (set, rest)
    | '&' :: '&' :: rest => continueWith .common rest
    | '-' :: '-' :: rest => continueWith .difference rest
    | '~' :: '~' :: rest => continueWith .oneOnly rest
    | '[' :: rest =>
      let named := match rest with
        | ':' :: rest => readAsciiSet flags rest
        | _ => none
      match named with
      | some (set, rest) => readBracket flags fuel negated (state.push set) rest
      | none =>
        let (inner, innerState, rest) := openBracket flags rest
        match readBracket flags fuel inner innerState rest with
        | some (set, rest) => readBracket flags fuel negated (state.push set) rest
        | none => none
    | text =>
      match readRange flags text with
      | some (set, rest) => readBracket flags fuel negated (state.push set) rest
      | none => none

/-! ### Repetitions -/

/-- Read a count with blanks around it. -/
def readCount (text : List Char) : Option (Nat × List Char) :=
  let text := text.dropWhile Text.isSpace
  let digits := text.takeWhile Char.isDigit
  let value := digits.foldl (fun acc c => 10 * acc + (c.toNat - 48)) 0
  if digits.isEmpty || value ≥ Nat.pow 2 32 then none
  else some (value, (text.dropWhile Char.isDigit).dropWhile Text.isSpace)

/-- Drop the mark that only changes preferences among matches. -/
def dropLazy : List Char → List Char
  | '?' :: rest => rest
  | text => text

/-- Read the bounds of a repetition behind the opening brace. -/
def readBounds (flags : Flags) (text : List Char) : Option ((Nat × Option Nat) × List Char) := do
  let (least, text) ← readCount (skipIdle flags text)
  match text with
  | '}' :: rest => some ((least, some 0), dropLazy (skipIdle flags rest))
  | ',' :: rest =>
    match skipIdle flags rest with
    | '}' :: rest => some ((least, none), dropLazy (skipIdle flags rest))
    | rest =>
      let (most, rest) ← readCount rest
      match rest with
      | '}' :: rest =>
        if least ≤ most then some ((least, some (most - least)), dropLazy (skipIdle flags rest))
        else none
      | _ => none
  | _ => none

/-! ### Groups -/

/-- Read flags up to a colon or the closing parenthesis, which is left. No flag may occur twice, and
a hyphen, which clears those behind it, may occur once and not last. -/
def readFlags (flags : Flags) (seen : List Char) :
    List Char → Option (Flags × List Char × List Char)
  | [] => none
  | c :: rest =>
    if c = ':' || c = ')' then
      if seen.head? = some '-' then none else some (flags, seen, c :: rest)
    else if seen.contains c then none
    else if c = '-' then readFlags flags (c :: seen) rest
    else
      match flags.set? c (!seen.contains '-') with
      | some flags => readFlags flags (c :: seen) rest
      | none => none

/-- Read the name of a group up to its closing angle. -/
def readGroupName (names : List String) (text : List Char) : Option (String × List Char) :=
  let name := text.takeWhile (· ≠ '>')
  let isFirst (c : Char) : Bool :=
    c = '_' || (Text.Property.ofTables Text.Property.alphabetic).holds c
  let isLater (c : Char) : Bool :=
    isFirst c || c = '.' || c = '[' || c = ']' ||
      (Text.Property.ofTables Text.Property.numbers).holds c
  match name, text.dropWhile (· ≠ '>') with
  | c :: more, '>' :: rest =>
    let name := String.ofList (c :: more)
    if isFirst c && more.all isLater && !names.contains name then some (name, rest) else none
  | _, _ => none

/-- A finished part of a sequence; a part that only sets flags cannot be repeated. -/
structure Part where
  pattern : Pattern
  repeatable : Bool

/-- The pattern that a sequence of parts, last part first, denotes. -/
def sequence (parts : List Part) : Pattern :=
  match parts with
  | [] => .empty
  | [part] => part.pattern
  | part :: rest => rest.foldl (fun acc p => .seq p.pattern acc) part.pattern

/-- Repeat the last part. -/
def repeatLast (least : Nat) (more : Option Nat) : List Part → Option (List Part)
  | part :: rest =>
    if part.repeatable then some (⟨.repeated part.pattern least more, true⟩ :: rest) else none
  | [] => none

/-- What reading a group yields: its pattern, the names of groups so far, and the rest. -/
structure Reading where
  pattern : Pattern
  names : List String
  rest : List Char

/-- The set that a dot denotes. -/
def dotSet? (flags : Flags) : Option CharSet :=
  if !flags.wide then none
  else if flags.dotAll then some (.complement .none)
  else if flags.anyLine then some (.complement (.union (.single '\n') (.single '\r')))
  else some (.complement (.single '\n'))

def startBoundary (flags : Flags) : Boundary :=
  if !flags.multiLine then .textStart else if flags.anyLine then .anyLineStart else .lineStart

def endBoundary (flags : Flags) : Boundary :=
  if !flags.multiLine then .textEnd else if flags.anyLine then .anyLineEnd else .lineEnd

def escapePattern (flags : Flags) : Escape → Pattern
  | .literal c => .char (flags.fold (.single c))
  | .set s => .char s
  | .boundary b => .boundary b

/-- Read alternatives up to the closing parenthesis or the end, which is left. `done` is the pattern
of the alternatives before, and `fuel` bounds the number of steps. -/
def readAlternatives :
    Nat → Flags → List String → Option Pattern → List Part → List Char → Option Reading
  | 0, _, _, _, _, _ => none
  | fuel + 1, flags, names, done, parts, text =>
    let close (p : Pattern) : Pattern := match done with
      | some before => .alt before p
      | none => p
    let push (p : Pattern) (rest : List Char) :=
      readAlternatives fuel flags names done (⟨p, true⟩ :: parts) rest
    let group (inner : Flags) (names : List String) (rest : List Char) :=
      match readAlternatives fuel inner names none [] rest with
      | some ⟨p, names, ')' :: rest⟩ =>
        readAlternatives fuel flags names done (⟨p, true⟩ :: parts) rest
      | _ => none
    let again (least : Nat) (more : Option Nat) (rest : List Char) :=
      match repeatLast least more parts with
      | some parts => readAlternatives fuel flags names done parts rest
      | none => none
    match skipIdle flags text with
    | [] => some ⟨close (sequence parts), names, []⟩
    | ')' :: rest => some ⟨close (sequence parts), names, ')' :: rest⟩
    | '|' :: rest => readAlternatives fuel flags names (some (close (sequence parts))) [] rest
    | '?' :: rest => again 0 (some 1) (dropLazy rest)
    | '*' :: rest => again 0 none (dropLazy rest)
    | '+' :: rest => again 1 none (dropLazy rest)
    | '{' :: rest =>
      match readBounds flags rest with
      | some ((least, more), rest) => again least more rest
      | none => none
    | '[' :: rest =>
      let (negated, state, rest) := openBracket flags rest
      match readBracket flags (rest.length + 1) negated state rest with
      | some (set, rest) => push (.char set) rest
      | none => none
    | '.' :: rest => (dotSet? flags).bind fun set => push (.char set) rest
    | '^' :: rest => push (.boundary (startBoundary flags)) rest
    | '$' :: rest => push (.boundary (endBoundary flags)) rest
    | '\\' :: rest =>
      match readEscape flags rest with
      | some (escape, rest) => push (escapePattern flags escape) rest
      | none => none
    | '(' :: rest =>
      match skipIdle flags rest with
      | '?' :: 'P' :: '<' :: rest =>
        (readGroupName names rest).bind fun (name, rest) => group flags (name :: names) rest
      | '?' :: '<' :: '=' :: _ => none
      | '?' :: '<' :: '!' :: _ => none
      | '?' :: '<' :: rest =>
        (readGroupName names rest).bind fun (name, rest) => group flags (name :: names) rest
      | '?' :: rest =>
        match readFlags flags [] rest with
        | some (inner, _, ':' :: rest) => group inner names rest
        | some (inner, seen, ')' :: rest) =>
          if seen.isEmpty then none
          else readAlternatives fuel inner names done (⟨.empty, false⟩ :: parts) rest
        | _ => none
      | rest => group flags names rest
    | c :: rest => push (.char (flags.fold (.single c))) rest

/-- The greatest size of a pattern with its repetitions written out. -/
def weightLimit : Nat := 327680

/-- Read a pattern. -/
def read? (text : String) : Option Pattern :=
  let chars := text.toList
  match readAlternatives (2 * chars.length + 2) Flags.standard [] none [] chars with
  | some ⟨p, _, []⟩ => if p.weight ≤ weightLimit then some p else none
  | _ => none

end Gleaner.Pattern
