import Gleaner.Json.Writer
import Gleaner.Proofs.Json.Document
import Gleaner.Proofs.Number.Decimal
import Gleaner.Proofs.Text.Line

/-!
# Documents and line breaks

No scalar has a line break in its text, since a string is written with its line breaks escaped. The
compact text adds none, so it is one line. The indented text has many, but it ends with a scalar or
with a bracket. So neither text ends with a line break of its own.
-/

namespace Gleaner

open Text

namespace Json

/-! ### Scalars -/

theorem newline_not_mem_escapeChar (c : Char) : '\n' ∉ escapeChar c := by
  have hhex : ∀ n < 16, '\n' ≠ hexDigit n := by decide
  by_cases hbreak : c = '\n'
  · rw [hbreak]
    decide
  rw [escapeChar]
  iterate 6
    split
    · decide
  split
  case isTrue hcontrol =>
    simp only [List.mem_cons, List.not_mem_nil, or_false, not_or]
    exact ⟨by decide, by decide, by decide, by decide, hhex _ (by omega), hhex _ (by omega)⟩
  case isFalse => exact fun h => hbreak (List.mem_singleton.1 h).symm

theorem isLine_quote (s : String) : IsLine (quote s) := by
  rw [quote, isLine_ofList, List.mem_append, List.mem_cons, List.mem_flatMap]
  rintro ((h | ⟨c, -, h⟩) | h)
  · exact absurd h (by decide)
  · exact newline_not_mem_escapeChar c h
  · exact absurd h (by decide)

theorem noSpace_writeFloat (x : Binary64) : NoSpace (writeFloat x) := by
  rw [writeFloat]
  split
  · exact DecimalStyle.noSpace_write (by decide) (by decide) x
  · decide

theorem writeFloat_ne_empty (x : Binary64) : writeFloat x ≠ "" := by
  rw [writeFloat]
  split
  · exact DecimalStyle.write_ne_empty x
  · decide

theorem isLine_writeScalar (v : Json) : IsLine (writeScalar v) := by
  cases v with
  | bool b => cases b <;> decide
  | int n => exact (Numeral.noSpace_ofInt n).isLine
  | float x => exact (noSpace_writeFloat x).isLine
  | string s => exact isLine_quote s
  | null => decide
  | array _ => exact List.not_mem_nil
  | object _ => exact List.not_mem_nil

/-! ### Texts of documents -/

def HasNoBreaks (v : Json) : Prop :=
  v.Everywhere fun
    | string s => IsLine s
    | object members => ∀ member ∈ members, IsLine member.1
    | _ => True

theorem compact_of_isScalar {v : Json} (h : v.IsScalar) : v.compact = v.writeScalar := by
  cases v with
  | array _ => exact h.elim
  | object _ => exact h.elim
  | _ => rfl

theorem compactItems_eq_map (items : List Json) : compactItems items = items.map compact := by
  induction items with
  | nil => rfl
  | cons v rest ih => rw [compactItems, ih, List.map_cons]

theorem compactMembers_eq_map (members : List (String × Json)) :
    compactMembers members = members.map fun m => quote m.1 ++ ":" ++ m.2.compact := by
  induction members with
  | nil => rfl
  | cons m rest ih => rw [compactMembers, ih, List.map_cons]

theorem isLine_compact (v : Json) : IsLine v.compact := by
  induction v with
  | scalar v h =>
    rw [compact_of_isScalar h]
    exact isLine_writeScalar v
  | array items ih =>
    have hitems : IsLine (String.intercalate "," (compactItems items)) := by
      rw [compactItems_eq_map]
      exact isLine_intercalate (by decide) (List.forall_mem_map.2 ih)
    rw [compact]
    exact isLine_append.2 ⟨isLine_append.2 ⟨by decide, hitems⟩, by decide⟩
  | object members ih =>
    have hmembers : IsLine (String.intercalate "," (compactMembers members)) := by
      rw [compactMembers_eq_map]
      refine isLine_intercalate (by decide) (List.forall_mem_map.2 fun m hm => ?_)
      exact isLine_append.2 ⟨isLine_append.2 ⟨isLine_quote m.1, by decide⟩, ih m hm⟩
    rw [compact]
    exact isLine_append.2 ⟨isLine_append.2 ⟨by decide, hmembers⟩, by decide⟩

theorem indentation_add (a b : Nat) : indentation (a + b) = indentation a ++ indentation b := by
  rw [indentation, indentation, indentation, ← String.ofList_append,
    List.replicate_append_replicate, Nat.mul_add]

theorem isLine_indentation (level : Nat) : IsLine (indentation level) :=
  isLine_ofList.2 fun hbreak => absurd (List.eq_of_mem_replicate hbreak) (by decide)

theorem endsLine_bracket {level : Nat} {opening closing : String} {lines : List String}
    (h : closing ≠ "") : EndsLine (bracket level opening closing lines) ↔ EndsLine closing := by
  rw [bracket]
  split <;> exact endsLine_append h

theorem not_endsLine_pretty (v : Json) : ¬ EndsLine v.pretty := by
  cases v with
  | array items =>
    rw [pretty, prettyAt, endsLine_bracket (by decide)]
    decide
  | object members =>
    rw [pretty, prettyAt, endsLine_bracket (by decide)]
    decide
  | _ => exact (isLine_writeScalar _).not_endsLine

end Json

end Gleaner
