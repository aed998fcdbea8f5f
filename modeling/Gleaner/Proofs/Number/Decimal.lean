import Gleaner.Number.Decimal
import Gleaner.Proofs.Number.Numeral
import Gleaner.Proofs.Text.Trim

/-!
# Numbers in running text

A number is written in digits and a few marks, and what a style adds is its own affair. So unless
the style brings white space in, there is none in a number, and no number is written as nothing.
Where a number ends a line, the line therefore ends with a character that no trimming takes away.
-/

namespace Gleaner

open Text

namespace Numeral

theorem isSpace_digitChar : ∀ d < 10, isSpace (digitChar d) = false := by
  decide

theorem noSpace_ofInt (i : Int) : NoSpace (ofInt i) := by
  intro c hc
  obtain rfl | ⟨d, hd, rfl⟩ := eq_minus_or_digit_of_mem_ofInt hc
  · decide
  · exact isSpace_digitChar d hd

theorem noSpace_ofNat (n : Nat) : NoSpace (ofNat n) :=
  noSpace_ofInt n

theorem ofNat_ne_empty (n : Nat) : ofNat n ≠ "" := by
  obtain ⟨d, -, tail, hdigits⟩ := exists_digitsBefore_eq_cons n []
  rw [← String.toList_inj.ne, toList_ofNat, hdigits]
  exact List.cons_ne_nil _ _

theorem ofInt_ne_empty (i : Int) : ofInt i ≠ "" := by
  cases i with
  | ofNat n => exact ofNat_ne_empty n
  | negSucc n => simp [ofInt]

end Numeral

namespace DecimalStyle

variable {style : DecimalStyle}

theorem isSpace_of_mem_zeros {n : Nat} : ∀ c ∈ zeros n, isSpace c = false := by
  intro c hc
  rw [List.eq_of_mem_replicate hc]
  decide

theorem noSpace_layout (hwhole : NoSpace style.wholeEnding) (hplus : NoSpace style.exponentPlus)
    (d : Decimal) : NoSpace (style.layout d) := by
  have hdigits : ∀ c ∈ (Numeral.ofNat d.digits).toList, isSpace c = false :=
    Numeral.noSpace_ofNat d.digits
  have hpoint : isSpace '.' = false := by decide
  rw [layout]
  generalize (Numeral.ofNat d.digits).toList = digits at hdigits
  split
  · split
    · rw [noSpace_append, noSpace_ofList, List.forall_mem_append]
      exact ⟨⟨hdigits, isSpace_of_mem_zeros⟩, hwhole⟩
    · split
      · rw [noSpace_ofList, List.forall_mem_append, List.forall_mem_cons]
        exact ⟨fun c hc => hdigits c (List.mem_of_mem_take hc), hpoint,
          fun c hc => hdigits c (List.mem_of_mem_drop hc)⟩
      · rw [noSpace_ofList, List.forall_mem_append, List.forall_mem_append]
        exact ⟨⟨(by decide : NoSpace "0."), isSpace_of_mem_zeros⟩, hdigits⟩
  · refine noSpace_append.2 ⟨noSpace_append.2 ⟨noSpace_ofList.2 ?_, by decide⟩, ?_⟩
    · split
      · exact List.forall_mem_nil _
      · exact hdigits
      · rw [List.forall_mem_cons] at hdigits ⊢
        exact ⟨hdigits.1, List.forall_mem_cons.2 ⟨hpoint, hdigits.2⟩⟩
    · split
      · exact noSpace_append.2 ⟨by decide, Numeral.noSpace_ofNat _⟩
      · exact noSpace_append.2 ⟨hplus, Numeral.noSpace_ofNat _⟩

theorem noSpace_write (hwhole : NoSpace style.wholeEnding) (hplus : NoSpace style.exponentPlus)
    (x : Binary64) : NoSpace (style.write x) := by
  have hsign : NoSpace (if x.isNegative then "-" else "") := by
    split <;> decide
  rw [write]
  split
  · exact noSpace_append.2 ⟨noSpace_append.2 ⟨hsign, by decide⟩, hwhole⟩
  · exact noSpace_append.2 ⟨hsign, noSpace_layout hwhole hplus _⟩

theorem layout_ne_empty (d : Decimal) : style.layout d ≠ "" := by
  have hdigits : (Numeral.ofNat d.digits).toList ≠ [] :=
    String.toList_eq_nil_iff.not.2 (Numeral.ofNat_ne_empty d.digits)
  rw [layout]
  generalize (Numeral.ofNat d.digits).toList = digits at hdigits
  split
  · split
    · simp [hdigits]
    · split <;> simp
  · simp

theorem write_ne_empty (x : Binary64) : style.write x ≠ "" := by
  rw [write]
  split
  · simp
  · simp [layout_ne_empty]

end DecimalStyle

end Gleaner
