import Gleaner.Number.Binary64

/-!
# Rounding large integers

An integer that needs all 64 bits of a word has no place in a word with a sign. Rounded to 53 bits
it stays far below the largest double, so what it becomes is a finite number.
-/

namespace Gleaner.Binary64

theorem isFinite_ofSizeBits {size : Nat} (h : size < infinityBits) :
    (ofSizeBits false size).isFinite = true := by
  have hinf : infinityBits = 2047 * 2 ^ 52 := rfl
  have hword : (ofSizeBits false size).bits.toNat = size := by
    show (UInt64.ofNat size).toNat = size
    rw [UInt64.toNat_ofNat']
    omega
  have hfield : (ofSizeBits false size).exponentField < 2047 := by
    show (ofSizeBits false size).bits.toNat / 2 ^ 52 % 2 ^ 11 < 2047
    rw [hword]
    omega
  rw [isFinite, decide_eq_true_iff]
  exact Nat.ne_of_lt hfield

theorem nearestBits_lt_infinityBits {n : Nat} (hlow : Int64.maxValue.toInt < n)
    (hhigh : n < UInt64.size) : nearestBits n 1 < infinityBits := by
  rw [Int64.toInt_maxValue] at hlow
  replace hhigh : n < 2 ^ 64 := hhigh
  have hlog : Nat.log2 n = 63 := (Nat.log2_eq_iff (by omega)).2 ⟨by omega, hhigh⟩
  have hone : Nat.log2 1 = 0 := by decide
  have hn : n ≠ 0 := by omega
  have hdigits : ¬ n / 1024 < 9007199254740992 := by omega
  -- eleven of the 64 bits are rounded away
  have hsize : nearestBits n 1 = min infinityBits (1085 * 2 ^ 52 +
      if 2 * (n % 2 ^ 11) < 2 ^ 11 ∨ 2 * (n % 2 ^ 11) = 2 ^ 11 ∧ n / 2 ^ 11 % 2 = 0 then n / 2 ^ 11
      else n / 2 ^ 11 + 1) := by
    simp [nearestBits, hn, hlog, hone, hdigits]
  have hinf : infinityBits = 2047 * 2 ^ 52 := rfl
  rw [hsize]
  split <;> omega

theorem isFinite_ofInt {i : Int} (hlow : Int64.maxValue.toInt < i) (hhigh : i < UInt64.size) :
    (ofInt i).isFinite = true := by
  have hpos : 0 ≤ i := Int.le_trans (by decide) (Int.le_of_lt hlow)
  have hsize : (i.natAbs : Int) = i := Int.natAbs_of_nonneg hpos
  rw [ofInt, decide_eq_false (Int.not_lt.2 hpos)]
  exact isFinite_ofSizeBits (nearestBits_lt_infinityBits (by rwa [hsize]) (by omega))

end Gleaner.Binary64
