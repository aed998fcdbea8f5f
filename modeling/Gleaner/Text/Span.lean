/-!
# Tables over characters

A property of characters is a list of spans, a mapping a list of runs. A step of two skips every
other character, which is how the two cases of many alphabets alternate.
-/

namespace Gleaner.Text

/-- Every `step`-th code point from `first` to `last`. -/
structure Span where
  first : Nat
  last : Nat
  step : Nat

def Span.contains (s : Span) (c : Nat) : Bool :=
  s.first ≤ c && c ≤ s.last && (c - s.first) % s.step == 0

/-- Whether a character is in a table. -/
def inTable (table : List Span) (c : Char) : Bool :=
  table.any fun s => s.contains c.toNat

/-- Code points that are mapped to the one at a fixed distance. -/
structure Run where
  first : Nat
  last : Nat
  step : Nat
  offset : Int

def Run.contains (r : Run) (c : Nat) : Bool :=
  r.first ≤ c && c ≤ r.last && (c - r.first) % r.step == 0

/-- The image of a code point, if a run has it. -/
def mapped? (runs : List Run) (c : Nat) : Option Nat :=
  (runs.find? fun r => r.contains c).map fun r => (c + r.offset : Int).toNat

/-- The code points whose image is `c`. -/
def sources (runs : List Run) (c : Nat) : List Nat :=
  runs.filterMap fun r =>
    let source := (c - r.offset : Int).toNat
    if r.contains source then some source else none

end Gleaner.Text
