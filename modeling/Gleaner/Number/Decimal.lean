import Gleaner.Number.Binary64

/-!
# The fewest digits that read back

Every finite double stands for an interval of reals, those that round to it. Its decimal is the
shortest number in that interval, and of the shortest the nearest to the double. The search goes up
by number of digits and tests the two neighbours of the value on each decimal grid.

How the digits are laid out is a decision of the document format, held in `DecimalStyle`.
-/

namespace Gleaner

/-- The positive decimal `digits * 10 ^ exponent`. -/
structure Decimal where
  digits : Nat
  exponent : Int
deriving DecidableEq, Inhabited

namespace Decimal

/-- A positive rational number. -/
structure Ratio where
  top : Nat
  bottom : Nat

/-- `n * base ^ e` as a quotient. -/
def Ratio.scaled (n base : Nat) (e : Int) : Ratio :=
  if e < 0 then ⟨n, Nat.pow base e.natAbs⟩ else ⟨n * Nat.pow base e.natAbs, 1⟩

def Ratio.lt (a b : Ratio) : Bool :=
  a.top * b.bottom < b.top * a.bottom

def Ratio.le (a b : Ratio) : Bool :=
  a.top * b.bottom ≤ b.top * a.bottom

/-- The reals that round to a number, with the number itself. -/
structure Interval where
  low : Ratio
  value : Ratio
  high : Ratio
  closed : Bool

def Interval.contains (i : Interval) (x : Ratio) : Bool :=
  if i.closed then i.low.le x && x.le i.high else i.low.lt x && x.lt i.high

/-- The interval of a finite number other than zero. Its ends belong to it when the significand is
even. -/
def intervalOf (x : Binary64) : Interval :=
  let m := x.significand
  let e := x.scale - 2
  { low := .scaled (if x.isNarrowBelow then 4 * m - 1 else 4 * m - 2) 2 e
    value := .scaled (4 * m) 2 e
    high := .scaled (4 * m + 2) 2 e
    closed := m % 2 = 0 }

/-- The number of digits before the point, found by counting up from an estimate that is never too
large. -/
def leadingPlaces (value : Ratio) : Nat → Int → Int
  | 0, k => k
  | steps + 1, k =>
    if value.lt (.scaled 1 10 k) then k else leadingPlaces value steps (k + 1)

/-- The neighbours of the value on the grid of multiples of `10 ^ grid` that read back, the nearer
first choice. -/
def candidate? (i : Interval) (grid : Int) : Option Nat :=
  let unit := Ratio.scaled 1 10 grid
  let below := i.value.top * unit.bottom / (i.value.bottom * unit.top)
  let hits (d : Nat) : Bool := 0 < d && i.contains (.scaled d 10 grid)
  let twice : Ratio := ⟨2 * i.value.top, i.value.bottom⟩
  let middle := Ratio.scaled (2 * below + 1) 10 grid
  let nearer := if twice.lt middle || (twice.le middle && below % 2 = 0) then below else below + 1
  let farther := if nearer = below then below + 1 else below
  if hits nearer then some nearer else if hits farther then some farther else none

/-- Try grids of one digit more each time. -/
def search (i : Interval) (places : Int) : Nat → Nat → Option Decimal
  | 0, _ => none
  | steps + 1, count =>
    match candidate? i (places - count) with
    | some d => some ⟨d, places - count⟩
    | none => search i places steps (count + 1)

/-- Move trailing zeros of the digits into the exponent. -/
def strip : Nat → Decimal → Decimal
  | 0, d => d
  | steps + 1, d =>
    if d.digits % 10 = 0 then strip steps ⟨d.digits / 10, d.exponent + 1⟩ else d

/-- The fewest digits that read back as the finite number `x`, which is not zero. -/
def ofBinary64 (x : Binary64) : Decimal :=
  let i := intervalOf x
  let estimate : Int := ((Nat.log2 x.significand : Int) + x.scale) * 30103 / 100000 - 1
  let places := leadingPlaces i.value 4 estimate
  match search i places 18 1 with
  | some d => strip 20 d
  | none => if x.scale < 0 then ⟨x.significand * Nat.pow 5 x.scale.natAbs, x.scale⟩
            else ⟨x.significand * Nat.pow 2 x.scale.natAbs, 0⟩

end Decimal

/-- How a format lays out a decimal. -/
structure DecimalStyle where
  /-- The least and greatest decimal exponent written positionally. -/
  leastPositional : Int
  greatestPositional : Int
  /-- What follows an integer written positionally. -/
  wholeEnding : String
  /-- What stands before the size of an exponent that is not negative. -/
  exponentPlus : String

namespace DecimalStyle

def zeros (n : Nat) : List Char :=
  List.replicate n '0'

/-- The text of a positive decimal. -/
def layout (style : DecimalStyle) (d : Decimal) : String :=
  let digits := (Numeral.ofNat d.digits).toList
  let scientific : Int := d.exponent + digits.length - 1
  if style.leastPositional ≤ scientific ∧ scientific ≤ style.greatestPositional then
    if 0 ≤ d.exponent then
      String.ofList (digits ++ zeros d.exponent.toNat) ++ style.wholeEnding
    else if 0 ≤ scientific then
      let whole := scientific.toNat + 1
      String.ofList (digits.take whole ++ '.' :: digits.drop whole)
    else
      String.ofList ("0.".toList ++ zeros (-scientific - 1).toNat ++ digits)
  else
    let fraction := match digits with
      | [] => []
      | [d] => [d]
      | d :: rest => d :: '.' :: rest
    let exponent :=
      if scientific < 0 then "-" ++ Numeral.ofNat scientific.natAbs
      else style.exponentPlus ++ Numeral.ofNat scientific.natAbs
    String.ofList fraction ++ "e" ++ exponent

/-- The text of a finite number. -/
def write (style : DecimalStyle) (x : Binary64) : String :=
  let sign := if x.isNegative then "-" else ""
  if x.isZero then sign ++ "0" ++ style.wholeEnding
  else sign ++ style.layout (Decimal.ofBinary64 x)

end DecimalStyle

end Gleaner
