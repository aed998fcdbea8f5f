import Gleaner.Path.Segment
import Mathlib.Logic.ExistsUnique

/-!
# Readings of a segment

A segment is written down by putting its parts together again, and what is written may well be read
as another segment: a call whose method holds a double colon is read as a scope. So a reading has a
condition on its parts, that nothing which is read first can be found in its text. For a scope this
is more than that its entry holds no double colon, since double colons overlap: of three colons the
first two count, and the entry must not end in a colon either.

Under that condition reading and writing are inverse to each other, which is one equivalence here.
What is known of the reading of any one text follows from it.
-/

namespace Gleaner

namespace Path

/-! ### Splitting at the first double colon -/

/-- The texts that can stand in front of the first double colon of a text. -/
structure IsEntry (text : List Char) : Prop where
  no_scope : ¬ [':', ':'] <:+: text
  no_colon_at_end : ¬ [':'] <:+ text

theorem isEntry_nil : IsEntry [] :=
  ⟨by simp, by simp⟩

theorem isEntry_cons_iff {c : Char} {rest : List Char} :
    IsEntry (c :: rest) ↔ (c = ':' → ∃ d tail, rest = d :: tail ∧ d ≠ ':') ∧ IsEntry rest := by
  constructor
  · intro h
    refine ⟨?_, ⟨fun hin => h.no_scope (List.infix_cons hin),
      fun hend => h.no_colon_at_end (List.suffix_cons_iff.2 (.inr hend))⟩⟩
    rintro rfl
    cases rest with
    | nil => exact absurd List.suffix_rfl h.no_colon_at_end
    | cons d tail =>
      refine ⟨d, tail, rfl, ?_⟩
      rintro rfl
      exact h.no_scope (List.infix_cons_iff.2 (.inl ⟨tail, rfl⟩))
  · rintro ⟨hcolon, hrest⟩
    constructor
    · intro hin
      obtain ⟨tail, heq⟩ | hin := List.infix_cons_iff.1 hin
      · obtain ⟨rfl, htail⟩ := List.cons.inj heq
        obtain ⟨d, tail', rfl, hd⟩ := hcolon rfl
        exact hd (List.cons.inj htail).1.symm
      · exact hrest.no_scope hin
    · intro hend
      obtain hend | hend := List.suffix_cons_iff.1 hend
      · obtain ⟨rfl, rfl⟩ := List.cons.inj hend
        obtain ⟨d, tail, hnil, -⟩ := hcolon rfl
        cases hnil
      · exact hrest.no_colon_at_end hend

/-- A text is split at its first double colon: none begins further to the left. -/
theorem splitScope?_eq_some_iff {text entry rest : List Char} :
    splitScope? text = some (entry, rest) ↔ text = entry ++ ':' :: ':' :: rest ∧ IsEntry entry := by
  fun_induction splitScope? text generalizing entry with
  | case1 tail =>
    constructor
    · rintro ⟨⟩
      exact ⟨rfl, isEntry_nil⟩
    · rintro ⟨htext, hentry⟩
      cases entry with
      | nil =>
        cases htext
        rfl
      | cons c entry =>
        obtain ⟨rfl, htail⟩ := List.cons.inj htext
        obtain ⟨d, entry, rfl, hd⟩ := (isEntry_cons_iff.1 hentry).1 rfl
        exact absurd (List.cons.inj htail).1.symm hd
  | case2 c tail hne ih =>
    constructor
    · intro hsplit
      obtain ⟨⟨entry, rest⟩, hsplit, ⟨⟩⟩ := Option.map_eq_some_iff.1 hsplit
      obtain ⟨rfl, hentry⟩ := ih.1 hsplit
      refine ⟨rfl, isEntry_cons_iff.2 ⟨fun hc => ?_, hentry⟩⟩
      cases entry with
      | nil => exact (hne _ hc rfl).elim
      | cons d entry =>
        refine ⟨d, entry, rfl, ?_⟩
        rintro rfl
        exact hne _ hc rfl
    · rintro ⟨htext, hentry⟩
      cases entry with
      | nil =>
        obtain ⟨hc, htail⟩ := List.cons.inj htext
        exact (hne _ hc htail).elim
      | cons d entry =>
        obtain ⟨rfl, htail⟩ := List.cons.inj htext
        rw [ih.2 ⟨htail, (isEntry_cons_iff.1 hentry).2⟩]
        rfl
  | case3 => simp

theorem splitScope?_eq_none_iff {text : List Char} :
    splitScope? text = none ↔ ¬ [':', ':'] <:+: text := by
  fun_induction splitScope? text with
  | case1 rest =>
    have hin : [':', ':'] <:+: ':' :: ':' :: rest := ⟨[], rest, rfl⟩
    simp [hin]
  | case2 c rest hne ih =>
    have hstart : ¬ [':', ':'] <+: c :: rest := by
      rintro ⟨tail, heq⟩
      obtain ⟨rfl, rfl⟩ := List.cons.inj heq
      exact hne tail rfl rfl
    rw [Option.map_eq_none_iff, ih, List.infix_cons_iff, not_or, and_iff_right hstart]
  | case3 => simp

/-! ### Splitting off the parentheses at the end -/

theorem beforeCall?_append (text : List Char) : beforeCall? (text ++ ['(', ')']) = some text := by
  induction text with
  | nil => rfl
  | cons c rest ih =>
    rw [List.cons_append, beforeCall?, ih]
    · rfl
    · intro _ h
      have hlength := congrArg List.length h
      simp at hlength

theorem beforeCall?_eq_some_iff {text method : List Char} :
    beforeCall? text = some method ↔ text = method ++ ['(', ')'] := by
  constructor
  · intro h
    fun_induction beforeCall? text generalizing method with
    | case1 =>
      obtain rfl := Option.some.inj h
      rfl
    | case2 c rest hne ih =>
      obtain ⟨tail, htail, rfl⟩ := Option.map_eq_some_iff.1 h
      rw [ih htail, List.cons_append]
    | case3 => cases h
  · rintro rfl
    exact beforeCall?_append method

theorem beforeCall?_eq_none_iff {text : List Char} :
    beforeCall? text = none ↔ ¬ ['(', ')'] <:+ text := by
  rw [Option.eq_none_iff_forall_ne_some]
  constructor
  · rintro h ⟨method, hmethod⟩
    exact h method (beforeCall?_eq_some_iff.2 hmethod.symm)
  · intro h method hmethod
    exact h ⟨method, (beforeCall?_eq_some_iff.1 hmethod).symm⟩

theorem unscoped_append_call {text : List Char} (h : ¬ [':', ':'] <:+: text) :
    ¬ [':', ':'] <:+: text ++ ['(', ')'] := by
  induction text with
  | nil =>
    intro hin
    have hcolon : ':' ∈ ['(', ')'] := hin.subset List.mem_cons_self
    exact absurd hcolon (by decide)
  | cons c rest ih =>
    intro hin
    obtain ⟨tail, htail⟩ | hrest := List.infix_cons_iff.1 hin
    · -- the second colon would have to stand in front of the parentheses
      obtain ⟨hc, hsecond⟩ := List.cons.inj htail
      cases rest with
      | nil => simp at hsecond
      | cons d rest =>
        have hd : ':' = d := (List.cons.inj hsecond).1
        exact h ⟨[], rest, by rw [← hc, ← hd]; rfl⟩
    · exact ih (fun hin => h (List.infix_cons hin)) hrest

end Path

namespace Segment

/-! ### Writing a segment -/

def text : Segment → String
  | scope entry rest => entry ++ "::" ++ rest
  | call method => method ++ "()"
  | lookup name => name

/-- The segments whose text is read as nothing else. -/
def IsReading : Segment → Prop
  | scope entry _ => Path.IsEntry entry.toList
  | call method => ¬ [':', ':'] <:+: (method ++ "()").toList
  | lookup name => ¬ [':', ':'] <:+: name.toList ∧ ¬ ['(', ')'] <:+ name.toList

theorem toList_text_scope (entry rest : String) :
    (scope entry rest).text.toList = entry.toList ++ ':' :: ':' :: rest.toList := by
  simp [text, String.toList_append]

theorem toList_text_call (method : String) :
    (call method).text.toList = method.toList ++ ['(', ')'] :=
  String.toList_append

/-- Parentheses make no double colon, so a method without one is enough. -/
theorem isReading_call {method : String} (h : ¬ [':', ':'] <:+: method.toList) :
    (call method).IsReading := by
  rw [IsReading, String.toList_append]
  exact Path.unscoped_append_call h

theorem classify_text {segment : Segment} (h : segment.IsReading) :
    classify segment.text = segment := by
  cases segment with
  | scope entry rest =>
    have hsplit : Path.splitScope? (scope entry rest).text.toList =
        some (entry.toList, rest.toList) :=
      Path.splitScope?_eq_some_iff.2 ⟨toList_text_scope entry rest, h⟩
    rw [classify, hsplit]
    simp only [String.ofList_toList]
  | call method =>
    have hunscoped : Path.splitScope? (call method).text.toList = none :=
      Path.splitScope?_eq_none_iff.2 h
    have hcall : Path.beforeCall? (call method).text.toList = some method.toList :=
      Path.beforeCall?_eq_some_iff.2 (toList_text_call method)
    rw [classify, hunscoped, hcall]
    simp only [String.ofList_toList]
  | lookup name =>
    obtain ⟨hunscoped, hcall⟩ := h
    rw [text, classify, Path.splitScope?_eq_none_iff.2 hunscoped,
      Path.beforeCall?_eq_none_iff.2 hcall]

theorem text_classify (text : String) :
    (classify text).text = text ∧ (classify text).IsReading := by
  rw [classify]
  cases hscope : Path.splitScope? text.toList with
  | some halves =>
    obtain ⟨entry, rest⟩ := halves
    obtain ⟨htext, hentry⟩ := Path.splitScope?_eq_some_iff.1 hscope
    have hreading : (scope (String.ofList entry) (String.ofList rest)).IsReading := by
      rwa [IsReading, String.toList_ofList]
    refine ⟨String.toList_inj.1 ?_, hreading⟩
    rw [toList_text_scope, String.toList_ofList, String.toList_ofList, htext]
  | none =>
    have hunscoped := Path.splitScope?_eq_none_iff.1 hscope
    cases hcall : Path.beforeCall? text.toList with
    | some method =>
      have htext : (call (String.ofList method)).text = text := by
        apply String.toList_inj.1
        rw [toList_text_call, String.toList_ofList, Path.beforeCall?_eq_some_iff.1 hcall]
      refine ⟨htext, ?_⟩
      -- the condition is on the whole text, parentheses included
      rw [← htext] at hunscoped
      exact hunscoped
    | none => exact ⟨rfl, hunscoped, Path.beforeCall?_eq_none_iff.1 hcall⟩

variable {text : String}

/-- A text is read as a segment exactly if it is the text of that segment and the segment meets the
condition of a reading. -/
theorem classify_eq_iff {segment : Segment} :
    classify text = segment ↔ segment.text = text ∧ segment.IsReading := by
  constructor
  · rintro rfl
    exact text_classify text
  · rintro ⟨rfl, h⟩
    exact classify_text h

/-! ### The three readings -/

theorem classify_scope {entry : String} (h : Path.IsEntry entry.toList) (rest : String) :
    classify (entry ++ "::" ++ rest) = scope entry rest :=
  classify_eq_iff.2 ⟨rfl, h⟩

theorem classify_call {method : String} (h : ¬ [':', ':'] <:+: method.toList) :
    classify (method ++ "()") = call method :=
  classify_eq_iff.2 ⟨rfl, isReading_call h⟩

theorem exists_classify_eq_scope_iff :
    (∃ entry rest, classify text = scope entry rest) ↔ [':', ':'] <:+: text.toList := by
  constructor
  · rintro ⟨entry, rest, h⟩
    rw [← (classify_eq_iff.1 h).1, toList_text_scope]
    exact ⟨entry.toList, rest.toList, by simp⟩
  · intro hcolons
    cases h : classify text with
    | scope entry rest => exact ⟨entry, rest, rfl⟩
    | call method =>
      obtain ⟨rfl, hunscoped⟩ := classify_eq_iff.1 h
      exact absurd hcolons hunscoped
    | lookup name =>
      obtain ⟨rfl, hunscoped, -⟩ := classify_eq_iff.1 h
      exact absurd hcolons hunscoped

theorem exists_classify_eq_call_iff :
    (∃ method, classify text = call method) ↔
      ¬ [':', ':'] <:+: text.toList ∧ ['(', ')'] <:+ text.toList := by
  constructor
  · rintro ⟨method, h⟩
    obtain ⟨rfl, hunscoped⟩ := classify_eq_iff.1 h
    exact ⟨hunscoped, method.toList, (toList_text_call method).symm⟩
  · rintro ⟨hunscoped, method, hmethod⟩
    have htext : (call (String.ofList method)).text = text := by
      apply String.toList_inj.1
      rw [toList_text_call, String.toList_ofList, hmethod]
    rw [← htext] at hunscoped
    exact ⟨String.ofList method, classify_eq_iff.2 ⟨htext, hunscoped⟩⟩

theorem classify_eq_lookup_iff :
    classify text = lookup text ↔
      ¬ [':', ':'] <:+: text.toList ∧ ¬ ['(', ')'] <:+ text.toList :=
  classify_eq_iff.trans (and_iff_right rfl)

/-- Without a double colon, a segment is a call or a lookup. -/
theorem classify_call_or_lookup (h : ¬ [':', ':'] <:+: text.toList) :
    (∃ method, classify text = call method) ∨ classify text = lookup text := by
  by_cases hcall : ['(', ')'] <:+ text.toList
  · exact .inl (exists_classify_eq_call_iff.2 ⟨h, hcall⟩)
  · exact .inr (classify_eq_lookup_iff.2 ⟨h, hcall⟩)

/-- Reading loses nothing of a text and leaves no choice. The segment that a text is read as is
written as that text and meets its condition, every segment that meets its condition is read back
from its text, and so there is one for every text. A double colon makes it a scope, whatever else
the text holds; else parentheses at the end make it a call; else it is the lookup of the text. -/
theorem classify_unambiguous :
    (∀ text, (classify text).text = text ∧ (classify text).IsReading) ∧
    (∀ segment : Segment, segment.IsReading → classify segment.text = segment) ∧
    (∀ text, ∃! segment : Segment, segment.text = text ∧ segment.IsReading) ∧
    ∀ text : String,
      ((∃ entry rest, classify text = scope entry rest) ↔ [':', ':'] <:+: text.toList) ∧
      ((∃ method, classify text = call method) ↔
        ¬ [':', ':'] <:+: text.toList ∧ ['(', ')'] <:+ text.toList) ∧
      (classify text = lookup text ↔
        ¬ [':', ':'] <:+: text.toList ∧ ¬ ['(', ')'] <:+ text.toList) := by
  refine ⟨text_classify, fun _ => classify_text, fun text => ?_, fun text => ?_⟩
  · refine ⟨classify text, text_classify text, fun segment hsegment => ?_⟩
    exact (classify_eq_iff.2 hsegment).symm
  · exact ⟨exists_classify_eq_scope_iff, exists_classify_eq_call_iff, classify_eq_lookup_iff⟩

theorem classify_unambiguous_colons :
    let segment : Segment := scope "a" ":b()"
    segment.text = "a:::b()" ∧ segment.IsReading ∧ classify "a:::b()" = segment := by
  intro segment
  have hreading : segment.IsReading := ⟨by decide, by decide⟩
  exact ⟨rfl, hreading, classify_unambiguous.2.1 segment hreading⟩

end Segment

end Gleaner
