import Gleaner.Proofs.Text.Trim

/-!
# Lines

A text is read line by line. A line break ends a line, and at the end of the text it begins no
other one, so lines that are written one after another, each with its break, are read back as they
were, whether the last of them has its break or not.
-/

namespace Gleaner.Text

def IsLine (text : String) : Prop :=
  '\n' ∉ text.toList

def EndsLine (text : String) : Prop :=
  text.toList.getLast? = some '\n'

instance (text : String) : Decidable (IsLine text) :=
  inferInstanceAs (Decidable (¬ _))

instance (text : String) : Decidable (EndsLine text) :=
  inferInstanceAs (Decidable (_ = _))

/-- The pieces of a text between line breaks, of which there is one more than breaks. -/
def pieces (text : String) : List String :=
  (text.toList.splitOn '\n').map String.ofList

/-- The lines of a text. Behind a break at its end, or in the empty text, there is none. -/
def lines (text : String) : List String :=
  if (pieces text).getLast? = some "" then (pieces text).dropLast else pieces text

variable {a b : String}

theorem isLine_ofList {chars : List Char} : IsLine (String.ofList chars) ↔ '\n' ∉ chars := by
  rw [IsLine, String.toList_ofList]

theorem NoSpace.isLine (h : NoSpace a) : IsLine a :=
  fun hbreak => absurd (h _ hbreak) (by decide)

theorem isLine_append : IsLine (a ++ b) ↔ IsLine a ∧ IsLine b := by
  rw [IsLine, String.toList_append, List.mem_append, not_or]
  rfl

theorem isLine_intercalate {separator : String} (hseparator : IsLine separator)
    {parts : List String} (h : ∀ part ∈ parts, IsLine part) :
    IsLine (String.intercalate separator parts) := by
  induction parts with
  | nil =>
    rw [String.intercalate_nil]
    exact List.not_mem_nil
  | cons first rest ih =>
    have hfirst : IsLine first := h first List.mem_cons_self
    have hrest := ih fun part hpart => h part (List.mem_cons_of_mem _ hpart)
    cases rest with
    | nil => rwa [String.intercalate_singleton]
    | cons second rest =>
      rw [String.intercalate_cons_cons]
      exact isLine_append.2 ⟨isLine_append.2 ⟨hfirst, hseparator⟩, hrest⟩

theorem IsLine.not_endsLine (h : IsLine a) : ¬ EndsLine a :=
  fun hend => h (List.mem_of_getLast? hend)

theorem endsLine_append (h : b ≠ "") : EndsLine (a ++ b) ↔ EndsLine b := by
  have hlast : b.toList.getLast? ≠ none := by
    rwa [ne_eq, List.getLast?_eq_none_iff, String.toList_eq_nil_iff]
  obtain ⟨c, hc⟩ := Option.ne_none_iff_exists'.1 hlast
  rw [EndsLine, EndsLine, String.toList_append, List.getLast?_append, hc, Option.some_or]

/-! ### The end of the last line -/

/-- A text that ends with a line break and has no other white space at its end. -/
def ClosesLine (text : String) : Prop :=
  ∃ body, EndsSolid body ∧ text = body ++ "\n"

theorem ClosesLine.append (h : ClosesLine b) (a : String) : ClosesLine (a ++ b) := by
  obtain ⟨body, hends, rfl⟩ := h
  exact ⟨a ++ body, hends.append a, String.append_assoc.symm⟩

/-- Such a text loses its line break when it is trimmed, and nothing else. -/
theorem ClosesLine.trimEnd_append_break (h : ClosesLine a) :
    String.ofList (trimEnd a.toList) ++ "\n" = a := by
  obtain ⟨body, hends, rfl⟩ := h
  rw [String.toList_append, trimEnd_append_of_blank (by decide), hends.trimEnd_eq_self,
    String.ofList_toList]

/-! ### Reading lines back -/

theorem pieces_append_break (a b : String) : pieces (a ++ "\n" ++ b) = pieces a ++ pieces b := by
  have hchars : (a ++ "\n" ++ b).toList = a.toList ++ '\n' :: b.toList := by simp
  rw [pieces, hchars, List.splitOn, List.splitOnP_append_cons _ _ (by simp), List.map_append]
  rfl

theorem pieces_of_isLine (h : IsLine a) : pieces a = [a] := by
  have hnone : ∀ c ∈ a.toList, (c == '\n') = false := by
    intro c hc
    exact beq_eq_false_iff_ne.2 fun hbreak => h (hbreak ▸ hc)
  rw [pieces, List.splitOn, List.splitOnP_eq_singleton hnone, List.map_singleton,
    String.ofList_toList]

theorem pieces_join {parts : List String} (h : ∀ part ∈ parts, IsLine part) :
    pieces (String.join (parts.map (· ++ "\n"))) = parts ++ [""] := by
  induction parts with
  | nil => rfl
  | cons part rest ih =>
    rw [List.map_cons, String.join_cons, pieces_append_break,
      pieces_of_isLine (h part List.mem_cons_self),
      ih fun other hother => h other (List.mem_cons_of_mem _ hother)]
    rfl

theorem lines_join {parts : List String} (h : ∀ part ∈ parts, IsLine part) :
    lines (String.join (parts.map (· ++ "\n"))) = parts := by
  rw [lines, pieces_join h, List.getLast?_concat, if_pos rfl, List.dropLast_concat]

/-- The last break may be left out, unless it stands for an empty line. -/
theorem lines_of_append_break {parts : List String} (hlines : ∀ part ∈ parts, IsLine part)
    (hne : ∀ part ∈ parts, part ≠ "") (ha : String.join (parts.map (· ++ "\n")) = a ++ "\n") :
    lines a = parts := by
  have hpieces : pieces a = parts := by
    have hall := pieces_append_break a ""
    rw [String.append_empty, ← ha, pieces_join hlines, pieces_of_isLine (by decide : IsLine "")]
      at hall
    exact (List.append_cancel_right hall).symm
  have hlast : parts.getLast? ≠ some "" := by
    intro hempty
    exact hne "" (List.mem_of_getLast? hempty) rfl
  rw [lines, hpieces, if_neg hlast]

end Gleaner.Text
