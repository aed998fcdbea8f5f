import Gleaner.Number.Numeral

/-!
# Numerals read back

The digits of a number read back as the number, with a sign in front as the signed one, and within
their bounds as a word or an index. Nothing but digits and a minus sign ever stands in a numeral, so
it cannot be taken for anything else where it is one part of a text.
-/

namespace Gleaner.Numeral

theorem fitsWord_iff {i : Int} :
    fitsWord i = true ↔ Int64.minValue.toInt ≤ i ∧ i ≤ Int64.maxValue.toInt := by
  have hlow : -(Nat.pow 2 63 : Int) = Int64.minValue.toInt := by decide
  have hhigh : (Nat.pow 2 63 : Int) = Int64.maxValue.toInt + 1 := by decide
  rw [fitsWord, Bool.and_eq_true, decide_eq_true_iff, decide_eq_true_iff, hlow, hhigh,
    Int.lt_add_one_iff]

theorem fitsWord_toInt (n : Int64) : fitsWord n.toInt = true :=
  fitsWord_iff.2 ⟨n.minValue_le_toInt, n.toInt_le⟩

theorem toInt_ofInt_of_fitsWord {i : Int} (h : fitsWord i = true) : (Int64.ofInt i).toInt = i := by
  have hbounds := fitsWord_iff.1 h
  have hlow : Int64.minValue.toInt = -2 ^ 63 := by decide
  have hhigh : Int64.maxValue.toInt + 1 = 2 ^ 63 := by decide
  apply Int64.toInt_ofInt_of_le
  · omega
  · omega

/-! ### Digits -/

theorem digitValue?_digitChar : ∀ d < 10, digitValue? (digitChar d) = some d := by
  decide

theorem readDigits_digitsBefore (n : Nat) (rest : List Char) :
    readDigits 0 (digitsBefore n rest) = readDigits n rest := by
  fun_induction digitsBefore n rest with
  | case1 n rest h =>
    rw [readDigits, digitValue?_digitChar n h, Option.bind_some, Nat.mul_zero, Nat.zero_add]
  | case2 n rest h ih =>
    rw [ih, readDigits, digitValue?_digitChar _ (Nat.mod_lt n (by decide)), Option.bind_some,
      Nat.div_add_mod]

theorem exists_digitsBefore_eq_cons (n : Nat) (rest : List Char) :
    ∃ d < 10, ∃ tail, digitsBefore n rest = digitChar d :: tail := by
  fun_induction digitsBefore n rest with
  | case1 n rest h => exact ⟨n, h, rest, rfl⟩
  | case2 n rest h ih => exact ih

theorem exists_of_mem_digitsBefore {n : Nat} {rest : List Char} {c : Char}
    (hc : c ∈ digitsBefore n rest) : c ∈ rest ∨ ∃ d < 10, c = digitChar d := by
  fun_induction digitsBefore n rest with
  | case1 n rest h =>
    obtain rfl | hc := List.mem_cons.1 hc
    · exact .inr ⟨n, h, rfl⟩
    · exact .inl hc
  | case2 n rest h ih =>
    obtain hc | hdigit := ih hc
    · obtain rfl | hc := List.mem_cons.1 hc
      · exact .inr ⟨n % 10, Nat.mod_lt n (by decide), rfl⟩
      · exact .inl hc
    · exact .inr hdigit

/-! ### Numbers -/

theorem toList_ofNat (n : Nat) : (ofNat n).toList = digitsBefore n [] := by
  rw [ofNat, String.toList_ofList]

theorem ofNat_of_lt {n : Nat} (h : n < 10) : ofNat n = String.ofList [digitChar n] := by
  rw [ofNat, digitsBefore, dif_pos h]

theorem readNat?_digitsBefore (n : Nat) : readNat? (digitsBefore n []) = some n := by
  obtain ⟨d, -, tail, hcons⟩ := exists_digitsBefore_eq_cons n []
  have hdigits := readDigits_digitsBefore n []
  rw [hcons] at hdigits ⊢
  exact hdigits

theorem ne_sign_of_digitsBefore_eq_cons {n : Nat} {c : Char} {tail : List Char}
    (h : digitsBefore n [] = c :: tail) : c ≠ '-' ∧ c ≠ '+' := by
  obtain ⟨d, hd, tail', hcons⟩ := exists_digitsBefore_eq_cons n []
  obtain ⟨rfl, -⟩ := List.cons.inj (hcons.symm.trans h)
  have hall : ∀ d < 10, digitChar d ≠ '-' ∧ digitChar d ≠ '+' := by decide
  exact hall d hd

theorem readInt?_ofInt (i : Int) : readInt? (ofInt i).toList = some i := by
  cases i with
  | ofNat n =>
    rw [ofInt, toList_ofNat, readInt?]
    · rw [readNat?_digitsBefore]
      rfl
    · intro rest h
      exact (ne_sign_of_digitsBefore_eq_cons h).1 rfl
    · intro rest h
      exact (ne_sign_of_digitsBefore_eq_cons h).2 rfl
  | negSucc n =>
    have hchars : (ofInt (.negSucc n)).toList = '-' :: digitsBefore (n + 1) [] := by
      rw [ofInt, String.toList_append, toList_ofNat]
      rfl
    rw [hchars, readInt?, readNat?_digitsBefore]
    rfl

theorem readIndex?_ofNat {n : Nat} (h : n < UInt64.size) : readIndex? (ofNat n) = some n := by
  rw [readIndex?, toList_ofNat]
  split
  · rename_i rest hcons
    exact absurd rfl (ne_sign_of_digitsBefore_eq_cons hcons).2
  · rw [readNat?_digitsBefore]
    exact if_pos h

theorem readWord?_ofInt (n : Int64) : readWord? (ofInt n.toInt) = some n := by
  rw [readWord?, readInt?_ofInt, Option.bind_some, if_pos (fitsWord_toInt n), Int64.ofInt_toInt]

theorem eq_minus_or_digit_of_mem_ofInt {i : Int} {c : Char} (hc : c ∈ (ofInt i).toList) :
    c = '-' ∨ ∃ d < 10, c = digitChar d := by
  cases i with
  | ofNat n =>
    rw [ofInt, toList_ofNat] at hc
    exact .inr ((exists_of_mem_digitsBefore hc).resolve_left List.not_mem_nil)
  | negSucc n =>
    rw [ofInt, String.toList_append, toList_ofNat, List.mem_append] at hc
    obtain hc | hc := hc
    · exact .inl (List.mem_singleton.1 hc)
    · exact .inr ((exists_of_mem_digitsBefore hc).resolve_left List.not_mem_nil)

end Gleaner.Numeral
