/-!
# White space

White space is the property of that name in the character standard: twenty-five characters, the
line and paragraph separators and the typographic spaces included, the zero-width ones not.
-/

namespace Gleaner.Text

/-- The ranges of the property, ascending, both ends included. -/
def spaceRanges : List (Nat × Nat) :=
  [(0x09, 0x0d), (0x20, 0x20), (0x85, 0x85), (0xa0, 0xa0), (0x1680, 0x1680), (0x2000, 0x200a),
   (0x2028, 0x2029), (0x202f, 0x202f), (0x205f, 0x205f), (0x3000, 0x3000)]

def isSpace (c : Char) : Bool :=
  spaceRanges.any fun (lo, hi) => lo ≤ c.toNat && c.toNat ≤ hi

def trimStart (text : List Char) : List Char :=
  text.dropWhile isSpace

def trimEnd (text : List Char) : List Char :=
  (text.reverse.dropWhile isSpace).reverse

/-- The text without the white space at both ends. -/
def trim (text : String) : String :=
  String.ofList (trimEnd (trimStart text.toList))

/-- Whether the text holds nothing but white space. -/
def isBlank (text : String) : Bool :=
  text.toList.all isSpace

end Gleaner.Text
