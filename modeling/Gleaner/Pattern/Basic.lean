import Gleaner.Text.Case
import Gleaner.Text.Property

/-!
# Patterns

A pattern describes pieces of a text. What it matches is a relation between positions of the text,
and a search asks only whether two positions are related, so the search moves whole sets of
positions at once: from the positions where a pattern may begin to those where it may end.
-/

namespace Gleaner

/-- A set of characters. -/
inductive CharSet where
  | none
  | range (first last : Nat)
  | property (p : Text.Property)
  | union (a b : CharSet)
  | common (a b : CharSet)
  | difference (a b : CharSet)
  | oneOnly (a b : CharSet)
  | complement (a : CharSet)
  /-- The characters that differ from a member only in case. -/
  | caseless (a : CharSet)
  /-- The same, for the letters of the basic alphabet only. -/
  | asciiCaseless (a : CharSet)
deriving Inhabited

namespace CharSet

def single (c : Char) : CharSet :=
  range c.toNat c.toNat

def asciiVariants (c : Char) : List Char :=
  if 'a' ≤ c ∧ c ≤ 'z' then [c, c.toUpper]
  else if 'A' ≤ c ∧ c ≤ 'Z' then [c, c.toLower]
  else [c]

def contains : CharSet → Char → Bool
  | none, _ => false
  | range first last, c => first ≤ c.toNat && c.toNat ≤ last
  | property p, c => p.holds c
  | union a b, c => a.contains c || b.contains c
  | common a b, c => a.contains c && b.contains c
  | difference a b, c => a.contains c && !b.contains c
  | oneOnly a b, c => a.contains c != b.contains c
  | complement a, c => !a.contains c
  | caseless a, c => (Text.caseVariants c).any fun variant => a.contains variant
  | asciiCaseless a, c => (asciiVariants c).any fun variant => a.contains variant

/-- The size of the description of a set. -/
def weight : CharSet → Nat
  | none => 0
  | range _ _ => 1
  | property p => (p.tables.map List.length).sum
  | union a b => a.weight + b.weight
  | common a b => a.weight + b.weight
  | difference a b => a.weight + b.weight
  | oneOnly a b => a.weight + b.weight
  | complement a => a.weight
  | caseless a => a.weight
  | asciiCaseless a => a.weight

end CharSet

/-- A condition on the neighbours of a position. A word character is one of `word`. -/
inductive Boundary where
  | textStart
  | textEnd
  | lineStart
  | lineEnd
  /-- Lines that end in a line feed, a carriage return or both. -/
  | anyLineStart
  | anyLineEnd
  | wordEdge (word : CharSet)
  | noWordEdge (word : CharSet)
  | wordStart (word : CharSet)
  | wordEnd (word : CharSet)
  | wordStartHalf (word : CharSet)
  | wordEndHalf (word : CharSet)
deriving Inhabited

namespace Boundary

def isMember (set : CharSet) (c : Option Char) : Bool :=
  c.any set.contains

/-- Whether the condition holds between two neighbours. -/
def holds (before after : Option Char) : Boundary → Bool
  | textStart => before.isNone
  | textEnd => after.isNone
  | lineStart => before.isNone || before = some '\n'
  | lineEnd => after.isNone || after = some '\n'
  | anyLineStart =>
    before.isNone || before = some '\n' || (before = some '\r' && after ≠ some '\n')
  | anyLineEnd =>
    after.isNone || after = some '\r' || (after = some '\n' && before ≠ some '\r')
  | wordEdge word => isMember word before != isMember word after
  | noWordEdge word => isMember word before == isMember word after
  | wordStart word => !isMember word before && isMember word after
  | wordEnd word => isMember word before && !isMember word after
  | wordStartHalf word => !isMember word before
  | wordEndHalf word => !isMember word after

end Boundary

inductive Pattern where
  | empty
  | char (set : CharSet)
  | boundary (b : Boundary)
  | seq (a b : Pattern)
  | alt (a b : Pattern)
  /-- Repeat `a` at least `least` times and, if there is a bound, at most `least + more` times. -/
  | repeated (a : Pattern) (least : Nat) (more : Option Nat)
deriving Inhabited

namespace Pattern

/-- The size of a pattern with its repetitions written out. -/
def weight : Pattern → Nat
  | empty => 0
  | char set => 1 + set.weight
  | boundary _ => 1
  | seq a b => a.weight + b.weight
  | alt a b => 1 + a.weight + b.weight
  | repeated a least more => a.weight * (least + more.getD 1)

/-- One mark for every position of a text, the position behind the last character included. -/
abbrev Marks := List Bool

/-- The neighbours of every position; `before` is the neighbour in front of the text. -/
def neighbours (before : Option Char) : List Char → List (Option Char × Option Char)
  | [] => [(before, none)]
  | c :: rest => (before, some c) :: neighbours (some c) rest

def union (a b : Marks) : Marks :=
  List.zipWith (· || ·) a b

/-- Apply a step as often as `times` says. -/
def iterate (step : Marks → Marks) : Nat → Marks → Marks
  | 0, marks => marks
  | times + 1, marks => iterate step times (step marks)

/-- The positions reached by at most `times` steps. It ends early when a step adds nothing. -/
def closure (step : Marks → Marks) : Nat → Marks → Marks
  | 0, marks => marks
  | times + 1, marks =>
    let next := union marks (step marks)
    if next = marks then marks else closure step times next

/-- The positions where the pattern may end if it begins at a marked position. -/
def reach (text : List Char) : Pattern → Marks → Marks
  | empty, marks => marks
  | char set, marks => false :: List.zipWith (fun mark c => mark && set.contains c) marks text
  | boundary b, marks =>
    List.zipWith (fun mark (before, after) => mark && b.holds before after) marks
      (neighbours none text)
  | seq a b, marks => b.reach text (a.reach text marks)
  | alt a b, marks => union (a.reach text marks) (b.reach text marks)
  | repeated a least more, marks =>
    closure (a.reach text) (more.getD (text.length + 1)) (iterate (a.reach text) least marks)

/-- Whether the pattern matches a piece of the text. -/
def occursIn (p : Pattern) (text : String) : Bool :=
  let chars := text.toList
  (p.reach chars (List.replicate (chars.length + 1) true)).any id

end Pattern

end Gleaner
