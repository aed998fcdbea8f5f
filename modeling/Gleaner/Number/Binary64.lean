import Gleaner.Number.Numeral

/-!
# Double-precision numbers

A number is its 64 bits: sign, eleven bits of exponent, 52 bits of fraction. Keeping the bits, and
rounding in exact integer arithmetic, leaves nothing to the processor, so comparison, reading and
writing can all be reasoned about.
-/

namespace Gleaner

structure Binary64 where
  bits : UInt64
deriving DecidableEq, Inhabited

namespace Binary64

def isNegative (x : Binary64) : Bool :=
  x.bits.toNat / Nat.pow 2 63 = 1

/-- The biased exponent field. -/
def exponentField (x : Binary64) : Nat :=
  x.bits.toNat / Nat.pow 2 52 % Nat.pow 2 11

/-- The fraction field. -/
def fractionField (x : Binary64) : Nat :=
  x.bits.toNat % Nat.pow 2 52

def isFinite (x : Binary64) : Bool :=
  x.exponentField ≠ 2047

def isNaN (x : Binary64) : Bool :=
  x.exponentField = 2047 ∧ x.fractionField ≠ 0

def isZero (x : Binary64) : Bool :=
  x.exponentField = 0 ∧ x.fractionField = 0

/-- Numerical equality: nothing equals a NaN, and the two zeros are equal. -/
def equal (x y : Binary64) : Bool :=
  !x.isNaN && !y.isNaN && (x = y || (x.isZero && y.isZero))

/-- The significand and binary exponent of a finite number: its size is `significand * 2 ^
scale`. -/
def significand (x : Binary64) : Nat :=
  if x.exponentField = 0 then x.fractionField else Nat.pow 2 52 + x.fractionField

def scale (x : Binary64) : Int :=
  if x.exponentField = 0 then -1074 else (x.exponentField : Int) - 1075

/-- Whether the gap to the next smaller number is half the gap to the next larger one. -/
def isNarrowBelow (x : Binary64) : Bool :=
  x.fractionField = 0 ∧ 1 < x.exponentField

def infinityBits : Nat := 2047 * Nat.pow 2 52

/-- The size bits of the number nearest to `numerator / denominator`, a half going to the even
neighbour, and the size bits of infinity when the quotient is too large. The binary exponent is
chosen so that the quotient has 53 bits, or is the least one. -/
def nearestBits (numerator denominator : Nat) : Nat :=
  if numerator = 0 then 0
  else
    let guess : Int := (Nat.log2 numerator : Int) - (Nat.log2 denominator : Int) - 53
    let quotient (e : Int) : Nat × Nat × Nat :=
      let top := if e < 0 then numerator * Nat.pow 2 e.natAbs else numerator
      let bottom := if e < 0 then denominator else denominator * Nat.pow 2 e.natAbs
      (top / bottom, top % bottom, bottom)
    let exact : Int := if (quotient guess).1 < Nat.pow 2 53 then guess else guess + 1
    let e : Int := if exact < -1074 then -1074 else exact
    let (q, r, bottom) := quotient e
    let rounded := if 2 * r < bottom || (2 * r = bottom && q % 2 = 0) then q else q + 1
    min infinityBits ((e + 1074).toNat * Nat.pow 2 52 + rounded)

def ofSizeBits (negative : Bool) (size : Nat) : Binary64 :=
  ⟨UInt64.ofNat (if negative then Nat.pow 2 63 + size else size)⟩

/-- The number nearest to an integer. -/
def ofInt (i : Int) : Binary64 :=
  ofSizeBits (i < 0) (nearestBits i.natAbs 1)

/-- The number nearest to `digits * 10 ^ exponent`. Exponents beyond the range of any double are
answered at once. -/
def ofDecimal (negative : Bool) (digits : Nat) (exponent : Int) : Binary64 :=
  let magnitude : Int := (Nat.log2 digits : Int) * 3 / 10 + exponent
  let size :=
    if digits = 0 then 0
    else if magnitude > 400 then infinityBits
    else if magnitude < -400 then 0
    else if exponent < 0 then nearestBits digits (Nat.pow 10 exponent.natAbs)
    else nearestBits (digits * Nat.pow 10 exponent.natAbs) 1
  ofSizeBits negative size

/-! ### Sizes

The sign plays no part here: products and quotients are those of sizes.
-/

/-- The size nearest to `numerator / denominator * 2 ^ scale`. -/
def nearestSize (numerator denominator : Nat) (scale : Int) : Binary64 :=
  ofSizeBits false
    (if scale < 0 then nearestBits numerator (denominator * Nat.pow 2 scale.natAbs)
     else nearestBits (numerator * Nat.pow 2 scale.natAbs) denominator)

def timesSize (x y : Binary64) : Binary64 :=
  nearestSize (x.significand * y.significand) 1 (x.scale + y.scale)

def overSize (x y : Binary64) : Binary64 :=
  nearestSize x.significand y.significand (x.scale - y.scale)

/-- The power of ten, rounded. -/
def powerOfTen (exponent : Nat) : Binary64 :=
  ofDecimal false 1 exponent

/-- The size of `digits * 10 ^ exponent`, found by rounding the digits, the power and the result. A
power that is too small for one quotient is applied in two. -/
def scaledSize (digits : Nat) (exponent : Int) : Binary64 :=
  let x := nearestSize digits 1 0
  if 0 ≤ exponent then x.timesSize (powerOfTen exponent.toNat)
  else if -308 ≤ exponent then x.overSize (powerOfTen exponent.natAbs)
  else
    (x.overSize (powerOfTen 308)).overSize (powerOfTen (min 308 (exponent.natAbs - 308)))

/-- The number with the sign and the size of another. -/
def withSign (negative : Bool) (x : Binary64) : Binary64 :=
  ofSizeBits negative (x.bits.toNat % Nat.pow 2 63)

end Binary64

end Gleaner
