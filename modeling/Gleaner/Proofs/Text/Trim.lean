import Gleaner.Text.Space
import Mathlib.Data.List.DropRight

/-!
# Text without white space at its ends

Trimming takes white space away at both ends of a text and nothing else, up to a character that is
no white space. So nothing is left exactly of a blank text, and what is left of any text is left as
it is by trimming it again. At the end alone, a character that is no white space keeps all that
stands in front of it.
-/

namespace Gleaner.Text

/-! ### No white space at all -/

def NoSpace (text : String) : Prop :=
  ∀ c ∈ text.toList, isSpace c = false

instance (text : String) : Decidable (NoSpace text) :=
  List.decidableBAll _ text.toList

theorem noSpace_ofList {chars : List Char} :
    NoSpace (String.ofList chars) ↔ ∀ c ∈ chars, isSpace c = false := by
  rw [NoSpace, String.toList_ofList]

theorem noSpace_append {a b : String} : NoSpace (a ++ b) ↔ NoSpace a ∧ NoSpace b := by
  rw [NoSpace, String.toList_append, List.forall_mem_append]
  rfl

variable {c : Char} {text : List Char}

/-! ### The end of a text -/

theorem trimEnd_eq_nil_iff : trimEnd text = [] ↔ ∀ c ∈ text, isSpace c = true :=
  List.rdropWhile_eq_nil_iff

/-- The second of two parts is trimmed first; the other one only if the second is blank. -/
theorem trimEnd_append (first second : List Char) :
    trimEnd (first ++ second) =
      if trimEnd second = [] then trimEnd first else first ++ trimEnd second := by
  simp only [trimEnd, List.reverse_append, List.dropWhile_append, List.isEmpty_iff,
    List.reverse_eq_nil_iff]
  split
  · rfl
  · rw [List.reverse_append, List.reverse_reverse]

theorem trimEnd_append_of_blank {second : List Char} (h : second.all isSpace = true)
    (first : List Char) : trimEnd (first ++ second) = trimEnd first := by
  rw [trimEnd_append, if_pos (trimEnd_eq_nil_iff.2 (List.all_eq_true.1 h))]

theorem trimEnd_cons (h : isSpace c = false) (text : List Char) :
    trimEnd (c :: text) = c :: trimEnd text := by
  have hsingle : trimEnd [c] = [c] := by
    rw [trimEnd, List.reverse_singleton, List.dropWhile_cons_of_neg (by simp [h])]
    rfl
  rw [← List.singleton_append, trimEnd_append]
  split
  · rename_i hblank
    rw [hsingle, hblank]
  · rfl

theorem trimEnd_append_cons (h : isSpace c = false) (first second : List Char) :
    trimEnd (first ++ c :: second) = first ++ c :: trimEnd second := by
  rw [trimEnd_append, trimEnd_cons h, if_neg (List.cons_ne_nil _ _)]

theorem mem_of_mem_trimEnd (h : c ∈ trimEnd text) : c ∈ text :=
  (List.rdropWhile_prefix isSpace text).subset h

theorem trimEnd_trimEnd (text : List Char) : trimEnd (trimEnd text) = trimEnd text :=
  List.rdropWhile_idempotent isSpace text

theorem trimEnd_drop_trimEnd_append (first second : List Char) :
    trimEnd ((trimEnd (first ++ second)).drop first.length) = trimEnd second := by
  have hlength : (trimEnd first).length ≤ first.length :=
    (List.rdropWhile_prefix isSpace first).length_le
  rw [trimEnd_append]
  split
  case isTrue hblank => rw [List.drop_eq_nil_of_le hlength, hblank, trimEnd_eq_nil_iff.2 (by simp)]
  case isFalse => rw [List.drop_left, trimEnd_trimEnd]

theorem trimEnd_eq_self (h : ∀ c ∈ text.getLast?, isSpace c = false) : trimEnd text = text := by
  apply List.rdropWhile_eq_self_iff.2
  intro hne
  simp [h _ (List.getLast_mem_getLast? hne)]

/-- A text whose last character is no white space. -/
def EndsSolid (text : String) : Prop :=
  ∃ c ∈ text.toList.getLast?, isSpace c = false

theorem EndsSolid.append {b : String} (h : EndsSolid b) (a : String) : EndsSolid (a ++ b) := by
  obtain ⟨c, hc, hspace⟩ := h
  refine ⟨c, ?_, hspace⟩
  rw [String.toList_append, List.getLast?_append, hc]
  rfl

theorem NoSpace.endsSolid {a : String} (h : NoSpace a) (hne : a ≠ "") : EndsSolid a := by
  have hne : a.toList ≠ [] := String.toList_eq_nil_iff.not.2 hne
  exact ⟨_, List.getLast_mem_getLast? hne, h _ (List.getLast_mem hne)⟩

theorem EndsSolid.trimEnd_eq_self {a : String} (h : EndsSolid a) :
    trimEnd a.toList = a.toList := by
  obtain ⟨c, hc, hspace⟩ := h
  apply Text.trimEnd_eq_self
  intro c' hc'
  rw [Option.mem_unique hc' hc, hspace]

/-- What is taken away at the end is white space. -/
theorem exists_eq_trimEnd_append (text : List Char) :
    ∃ spaces, (∀ c ∈ spaces, isSpace c = true) ∧ text = trimEnd text ++ spaces :=
  ⟨text.rtakeWhile isSpace, fun _ => List.mem_rtakeWhile_imp,
    List.rdropWhile_append_rtakeWhile.symm⟩

/-! ### Both ends -/

/-- A text with no white space at its ends. -/
structure IsTrimmed (text : List Char) : Prop where
  head : ∀ c ∈ text.head?, isSpace c = false
  last : ∀ c ∈ text.getLast?, isSpace c = false

theorem isTrimmed_trimEnd (h : ∀ c ∈ text.head?, isSpace c = false) :
    IsTrimmed (trimEnd text) := by
  constructor
  · intro c hc
    obtain ⟨spaces, -, hsplit⟩ := exists_eq_trimEnd_append text
    apply h
    rw [hsplit, List.head?_append, hc]
    rfl
  · intro c hc
    obtain ⟨hne, rfl⟩ := List.mem_getLast?_eq_getLast hc
    exact Bool.eq_false_iff.2 (List.rdropWhile_last_not isSpace text hne)

theorem isTrimmed_trim (s : String) : IsTrimmed (trim s).toList := by
  rw [trim, String.toList_ofList]
  apply isTrimmed_trimEnd
  intro c hc
  have hhead := List.head?_dropWhile_not isSpace s.toList
  rwa [← trimStart, hc] at hhead

theorem trim_eq_self {s : String} (h : IsTrimmed s.toList) : trim s = s := by
  have hstart : trimStart s.toList = s.toList := by
    apply List.dropWhile_eq_self_iff.2
    intro hlength
    simp [h.head s.toList[0] (by simp [List.head?_eq_getElem?, hlength])]
  rw [trim, hstart, trimEnd_eq_self h.last, String.ofList_toList]

theorem trim_trim (s : String) : trim (trim s) = trim s :=
  trim_eq_self (isTrimmed_trim s)

theorem exists_eq_append_trim (s : String) :
    ∃ before after, (∀ c ∈ before ++ after, isSpace c = true) ∧
      s.toList = before ++ (trim s).toList ++ after := by
  obtain ⟨after, hafter, hend⟩ := exists_eq_trimEnd_append (trimStart s.toList)
  refine ⟨s.toList.takeWhile isSpace, after, ?_, ?_⟩
  · intro c hc
    obtain hbefore | hc := List.mem_append.1 hc
    · exact List.mem_takeWhile_imp hbefore
    · exact hafter c hc
  · rw [trim, String.toList_ofList, List.append_assoc, ← hend, trimStart,
      List.takeWhile_append_dropWhile]

theorem isBlank_iff {s : String} : isBlank s = true ↔ ∀ c ∈ s.toList, isSpace c = true :=
  List.all_eq_true

theorem trim_eq_empty_iff {s : String} : trim s = "" ↔ isBlank s = true := by
  obtain ⟨before, after, hspaces, hsplit⟩ := exists_eq_append_trim s
  rw [isBlank_iff]
  constructor
  · intro hempty
    rwa [hsplit, hempty, String.toList_empty, List.append_nil]
  · intro hblank
    have hstart : trimStart s.toList = [] := List.dropWhile_eq_nil_iff.2 hblank
    rw [trim, hstart]
    rfl

theorem isBlank_trim (s : String) : isBlank (trim s) = isBlank s := by
  rw [Bool.eq_iff_iff, ← trim_eq_empty_iff, ← trim_eq_empty_iff, trim_trim]

end Gleaner.Text
