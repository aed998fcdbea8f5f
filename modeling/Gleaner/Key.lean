import Gleaner.Number.Numeral

/-!
# Keys

A map entry is addressed by a text or by a whole number of 64 bits. Both have a textual form, the
one that appears in a path.
-/

namespace Gleaner

inductive Key where
  | int (n : Int64)
  | text (s : String)
deriving DecidableEq, Inhabited

namespace Key

/-- The integer key that a text denotes. -/
def readInt? (segment : String) : Option Key :=
  (Numeral.readWord? segment).map int

/-- The key as it is written in a path. -/
def segment : Key → String
  | int n => Numeral.ofInt n.toInt
  | text s => s

/-- The key of the entry at an ordinal position. -/
def ofPosition (n : Nat) : Key :=
  int (Int64.ofNat n)

end Key

end Gleaner
