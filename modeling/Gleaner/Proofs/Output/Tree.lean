import Gleaner.Output.Tree
import Gleaner.Proofs.Json.Line

/-!
# The tree shows every part of a document

The parts of a document at any depth have a line each in its tree, in the order in which a reader
meets them: a part before the parts of its own, and these before what follows it. The paths of the
parts say which order that is, and how deep a part stands. A part with no parts of its own is shown
on its line; behind a line with nothing but a mark, the parts follow.

The last line always shows something, and what it shows does not end with white space. So nothing
but the last line break is taken away at the end, whatever stands in the texts and keys.
-/

namespace Gleaner.Output.Tree

open Text

/-! ### Parts -/

/-- The parts of a document, each behind its mark. -/
def entries : Json → List (String × Json)
  | .array items => items.map ("-", ·)
  | .object members => members.map fun (k, v) => (k ++ ":", v)
  | _ => []

/-- A part of a document at some depth. The path has a position for each document it is in. -/
structure Entry where
  path : List Nat
  mark : String
  value : Json

/-- A part of a part, seen from the whole. -/
def Entry.below (index : Nat) (entry : Entry) : Entry :=
  { entry with path := index :: entry.path }

/-- The parts of a document at any depth. -/
inductive IsEntry : Json → Entry → Prop
  | own {v part : Json} {index : Nat} {mark : String}
      (hpart : (entries v)[index]? = some (mark, part)) : IsEntry v ⟨[index], mark, part⟩
  | deep {v part : Json} {index : Nat} {mark : String} {entry : Entry}
      (hpart : (entries v)[index]? = some (mark, part)) (hentry : IsEntry part entry) :
      IsEntry v (entry.below index)

def isLeaf : Json → Bool
  | .array items => items.isEmpty
  | .object members => members.isEmpty
  | _ => true

/-- What a part shows behind its mark: nothing, if it has parts of its own. -/
def shown : Json → String
  | .array [] => " []"
  | .object [] => " \x7b\x7d"
  | .array _ => ""
  | .object _ => ""
  | .string s => " \"" ++ s ++ "\""
  | scalar => " " ++ scalar.compact

/-- The line of a part, two blanks further in for each document that it is in but the whole. -/
def Entry.text (entry : Entry) : String :=
  String.ofList (List.replicate (2 * (entry.path.length - 1)) ' ') ++ entry.mark ++
    shown entry.value

variable {v part : Json} {mark : String} {entry : Entry}

theorem isLeaf_iff : isLeaf v = true ↔ entries v = [] := by
  cases v <;> simp [isLeaf, entries]

theorem shown_eq (v : Json) : shown v = if isLeaf v then " " ++ leaf v else "" := by
  cases v with
  | array items => cases items <;> rfl
  | object members => cases members <;> rfl
  | string s => simp [shown, isLeaf, leaf, ← String.append_assoc]
  | _ => rfl

theorem mem_entries (h : (mark, part) ∈ entries v) :
    (∃ items, v = .array items ∧ mark = "-" ∧ part ∈ items) ∨
      ∃ members k, v = .object members ∧ mark = k ++ ":" ∧ (k, part) ∈ members := by
  cases v with
  | array items =>
    obtain ⟨item, hitem, heq⟩ := List.mem_map.1 h
    obtain ⟨rfl, rfl⟩ := Prod.mk.inj heq
    exact .inl ⟨items, rfl, rfl, hitem⟩
  | object members =>
    obtain ⟨⟨k, value⟩, hmember, heq⟩ := List.mem_map.1 h
    obtain ⟨rfl, rfl⟩ := Prod.mk.inj heq
    exact .inr ⟨members, k, rfl, rfl, hmember⟩
  | _ => exact absurd h List.not_mem_nil

/-! ### The parts in order -/

theorem sizeOf_lt_of_mem_entries (h : (mark, part) ∈ entries v) : sizeOf part < sizeOf v := by
  obtain ⟨items, rfl, -, hitem⟩ | ⟨members, k, rfl, -, hmember⟩ := mem_entries h
  · have hlt := List.sizeOf_lt_of_mem hitem
    simp only [Json.array.sizeOf_spec]
    omega
  · have hlt := List.sizeOf_lt_of_mem hmember
    simp only [Json.object.sizeOf_spec, Prod.mk.sizeOf_spec] at hlt ⊢
    omega

/-- Induction on documents through their parts. -/
theorem entries_induction {motive : Json → Prop}
    (step : ∀ v, (∀ mark part, (mark, part) ∈ entries v → motive part) → motive v) (v : Json) :
    motive v :=
  step v fun _ part _ => entries_induction step part
termination_by sizeOf v
decreasing_by exact sizeOf_lt_of_mem_entries ‹_›

/-- The parts of a document at any depth, each in front of its own. -/
def outline (v : Json) : List Entry :=
  (entries v).attach.zipIdx.flatMap fun e =>
    ⟨[e.2], e.1.val.1, e.1.val.2⟩ :: (outline e.1.val.2).map (Entry.below e.2)
termination_by sizeOf v
decreasing_by exact sizeOf_lt_of_mem_entries e.1.property

def branch (index : Nat) (mark : String) (part : Json) : List Entry :=
  ⟨[index], mark, part⟩ :: (outline part).map (Entry.below index)

theorem outline_eq (v : Json) :
    outline v = (entries v).zipIdx.flatMap fun e => branch e.2 e.1.1 e.1.2 := by
  conv_rhs => rw [← List.attach_map_subtype_val (entries v), List.zipIdx_map, List.flatMap_map]
  rw [outline]
  rfl

theorem mem_outline :
    entry ∈ outline v ↔
      ∃ index mark part,
        (entries v)[index]? = some (mark, part) ∧ entry ∈ branch index mark part := by
  rw [outline_eq, List.mem_flatMap]
  constructor
  · rintro ⟨⟨⟨mark, part⟩, index⟩, hmem, hentry⟩
    exact ⟨index, mark, part, List.mem_zipIdx_iff_getElem?.1 hmem, hentry⟩
  · rintro ⟨index, mark, part, hpart, hentry⟩
    exact ⟨((mark, part), index), List.mem_zipIdx_iff_getElem?.2 hpart, hentry⟩

theorem mem_outline_iff : entry ∈ outline v ↔ IsEntry v entry := by
  induction v using entries_induction generalizing entry with
  | step v ih =>
    rw [mem_outline]
    constructor
    · intro h
      obtain ⟨index, mark, part, hpart, hentry⟩ := h
      obtain rfl | hbelow := List.mem_cons.1 hentry
      · exact .own hpart
      · obtain ⟨inner, hinner, rfl⟩ := List.mem_map.1 hbelow
        exact .deep hpart ((ih mark part (List.mem_of_getElem? hpart)).1 hinner)
    · intro h
      cases h with
      | own hpart => exact ⟨_, _, _, hpart, List.mem_cons_self⟩
      | deep hpart hinner =>
        have hmem := (ih _ _ (List.mem_of_getElem? hpart)).2 hinner
        exact ⟨_, _, _, hpart, List.mem_cons_of_mem _ (List.mem_map_of_mem hmem)⟩

theorem exists_path_eq_cons {index : Nat} (h : entry ∈ branch index mark part) :
    ∃ rest, entry.path = index :: rest := by
  obtain rfl | hbelow := List.mem_cons.1 h
  · exact ⟨[], rfl⟩
  · obtain ⟨inner, -, rfl⟩ := List.mem_map.1 hbelow
    exact ⟨inner.path, rfl⟩

theorem path_ne_nil (h : entry ∈ outline v) : entry.path ≠ [] := by
  obtain ⟨index, mark, part, -, hentry⟩ := mem_outline.1 h
  obtain ⟨rest, hpath⟩ := exists_path_eq_cons hentry
  rw [hpath]
  exact List.cons_ne_nil _ _

/-! Paths are in the order of the lexicon, so a path comes before those that go on from it. -/

theorem pairwise_branch {index : Nat} (h : (outline part).Pairwise (·.path < ·.path)) :
    (branch index mark part).Pairwise (·.path < ·.path) := by
  rw [branch, List.pairwise_cons, List.pairwise_map, List.forall_mem_map]
  constructor
  · intro inner hinner
    obtain ⟨first, rest, hpath⟩ := List.exists_cons_of_ne_nil (path_ne_nil hinner)
    exact List.cons_lt_cons_iff.2 (.inr ⟨rfl, hpath ▸ List.nil_lt_cons first rest⟩)
  · apply h.imp
    intro a b hlt
    exact List.cons_lt_cons_iff.2 (.inr ⟨rfl, hlt⟩)

theorem pairwise_outline (v : Json) : (outline v).Pairwise (·.path < ·.path) := by
  induction v using entries_induction with
  | step v ih =>
    have hindices : (entries v).zipIdx.Pairwise (·.2 < ·.2) := by
      rw [← List.pairwise_map (f := Prod.snd) (R := (· < ·)), List.zipIdx_map_snd]
      exact List.pairwise_lt_range' 1
    rw [outline_eq, List.pairwise_flatMap]
    constructor
    · intro e he
      exact pairwise_branch (ih _ _ (List.mem_of_getElem? (List.mem_zipIdx_iff_getElem?.1 he)))
    · apply hindices.imp
      intro a b hlt entry hentry other hother
      obtain ⟨rest, hpath⟩ := exists_path_eq_cons hentry
      obtain ⟨rest', hpath'⟩ := exists_path_eq_cons hother
      rw [hpath, hpath']
      exact List.cons_lt_cons_iff.2 (.inl hlt)

/-! ### The lines of the parts -/

theorem itemLines_eq_flatMap (depth : Nat) (items : List Json) :
    itemLines depth items = items.flatMap (entryLines depth "-") := by
  induction items with
  | nil => rfl
  | cons v rest ih => rw [itemLines, ih, List.flatMap_cons]

theorem memberLines_eq_flatMap (depth : Nat) (members : List (String × Json)) :
    memberLines depth members = members.flatMap fun m => entryLines depth (m.1 ++ ":") m.2 := by
  induction members with
  | nil => rfl
  | cons m rest ih => rw [memberLines, ih, List.flatMap_cons]

theorem lines_eq_flatMap (depth : Nat) (v : Json) :
    lines depth v = (entries v).flatMap fun e => entryLines depth e.1 e.2 := by
  cases v with
  | array items => rw [lines, itemLines_eq_flatMap, entries, List.flatMap_map]
  | object members => rw [lines, memberLines_eq_flatMap, entries, List.flatMap_map]
  | _ => rfl

theorem entryLines_eq_cons (depth : Nat) (mark : String) (v : Json) :
    entryLines depth mark v = line depth (mark ++ shown v) :: lines (depth + 1) v := by
  cases v with
  | array items =>
    cases items with
    | nil => simp [entryLines, shown_eq, isLeaf, lines, itemLines, String.append_assoc]
    | cons => simp [entryLines, shown_eq, isLeaf, lines]
  | object members =>
    cases members with
    | nil => simp [entryLines, shown_eq, isLeaf, lines, memberLines, String.append_assoc]
    | cons => simp [entryLines, shown_eq, isLeaf, lines]
  | _ => simp [entryLines, shown_eq, isLeaf, lines, String.append_assoc]

/-- Seen from the whole, a part of a part stands one level further in. -/
theorem indentation_append_text_below {index : Nat} (hpath : entry.path ≠ []) (depth : Nat) :
    Json.indentation depth ++ (entry.below index).text =
      Json.indentation (depth + 1) ++ entry.text := by
  have htext (entry : Entry) : entry.text =
      Json.indentation (entry.path.length - 1) ++ (entry.mark ++ shown entry.value) :=
    String.append_assoc
  have hlength : (entry.below index).path.length - 1 = 1 + (entry.path.length - 1) := by
    have hpos := List.length_pos_iff.2 hpath
    simp only [Entry.below, List.length_cons]
    omega
  calc Json.indentation depth ++ (entry.below index).text
      = Json.indentation depth ++ Json.indentation (1 + (entry.path.length - 1)) ++
          (entry.mark ++ shown entry.value) := by
        rw [htext, hlength, ← String.append_assoc]
        rfl
    _ = Json.indentation (depth + 1) ++ Json.indentation (entry.path.length - 1) ++
          (entry.mark ++ shown entry.value) := by
        rw [← Json.indentation_add, ← Json.indentation_add, Nat.add_assoc]
    _ = Json.indentation (depth + 1) ++ entry.text := by rw [htext, String.append_assoc]

theorem map_text_branch (depth index : Nat) (mark : String) (part : Json) :
    (branch index mark part).map (Json.indentation depth ++ ·.text ++ "\n") =
      line depth (mark ++ shown part) ::
        (outline part).map (Json.indentation (depth + 1) ++ ·.text ++ "\n") := by
  rw [branch, List.map_cons, List.map_map]
  congr 1
  apply List.map_congr_left
  intro inner hinner
  exact congrArg (· ++ "\n") (indentation_append_text_below (path_ne_nil hinner) depth)

theorem lines_eq_map_outline (depth : Nat) (v : Json) :
    lines depth v = (outline v).map (Json.indentation depth ++ ·.text ++ "\n") := by
  induction v using entries_induction generalizing depth with
  | step v ih =>
    rw [lines_eq_flatMap, outline_eq, List.map_flatMap]
    conv_lhs => rw [← List.zipIdx_map_fst 0 (entries v), List.flatMap_map]
    apply List.flatMap_congr
    intro e he
    have hpart := List.mem_of_getElem? (List.mem_zipIdx_iff_getElem?.1 he)
    rw [entryLines_eq_cons, map_text_branch, ih _ _ hpart]

/-! ### The end of a tree -/

theorem endsSolid_leaf (v : Json) : EndsSolid (leaf v) := by
  have hquote : EndsSolid "\"" := NoSpace.endsSolid (by decide) (by decide)
  cases v with
  | null => exact NoSpace.endsSolid (by decide) (by decide)
  | bool b => cases b <;> exact NoSpace.endsSolid (by decide) (by decide)
  | int n => exact (Numeral.noSpace_ofInt n).endsSolid (Numeral.ofInt_ne_empty n)
  | float x => exact (Json.noSpace_writeFloat x).endsSolid (Json.writeFloat_ne_empty x)
  | string s => exact hquote.append _
  | array _ => exact NoSpace.endsSolid (a := "[]") (by decide) (by decide)
  | object _ => exact NoSpace.endsSolid (a := "\x7b\x7d") (by decide) (by decide)

theorem closesLine_line {text : String} (h : EndsSolid text) (depth : Nat) :
    ClosesLine (line depth text) :=
  ⟨_, h.append _, rfl⟩

/-- The last line of a tree is that of a part with no parts of its own. -/
theorem closesLine_join_lines (hparts : entries v ≠ []) (depth : Nat) :
    ClosesLine (String.join (lines depth v)) := by
  induction v using entries_induction generalizing depth with
  | step v ih =>
    obtain ⟨before, ⟨mark, part⟩, hlast⟩ := (List.eq_nil_or_concat (entries v)).resolve_left hparts
    rw [List.concat_eq_append] at hlast
    rw [lines_eq_flatMap, hlast, List.flatMap_append, List.flatMap_singleton, String.join_append,
      entryLines_eq_cons, String.join_cons]
    apply ClosesLine.append
    -- The last part ends the tree with its own line, unless there are parts below it.
    by_cases hpart : entries part = []
    · rw [lines_eq_flatMap, hpart, List.flatMap_nil, String.join_nil, String.append_empty, shown_eq,
        if_pos (isLeaf_iff.2 hpart)]
      exact closesLine_line (((endsSolid_leaf part).append " ").append mark) depth
    · have hmem : (mark, part) ∈ entries v := by simp [hlast]
      exact (ih mark part hmem hpart (depth + 1)).append _

theorem render_of_not_isLeaf (h : isLeaf v = false) : render v = String.join (lines 0 v) := by
  cases v with
  | array items =>
    cases items with
    | nil => exact absurd h (by decide)
    | cons => rfl
  | object members =>
    cases members with
    | nil => exact absurd h (by decide)
    | cons => rfl
  | _ => rfl

theorem render_of_isLeaf (hv : ¬ v.IsScalar) (h : isLeaf v = true) :
    render v = line 0 (leaf v) := by
  cases v with
  | array items =>
    rw [List.isEmpty_iff.1 h]
    rfl
  | object members =>
    rw [List.isEmpty_iff.1 h]
    rfl
  | _ => exact absurd trivial hv

/-- Trimming takes the last line break away and nothing else. -/
theorem display_append_break (hv : ¬ v.IsScalar) : display v ++ "\n" = render v := by
  have hdisplay : display v = String.ofList (trimEnd (render v).toList) := by
    cases v with
    | array _ => rfl
    | object _ => rfl
    | _ => exact absurd trivial hv
  rw [hdisplay]
  apply ClosesLine.trimEnd_append_break
  by_cases hleaf : isLeaf v = true
  · rw [render_of_isLeaf hv hleaf]
    exact closesLine_line (endsSolid_leaf v) 0
  · rw [render_of_not_isLeaf (Bool.eq_false_iff.2 hleaf)]
    exact closesLine_join_lines (isLeaf_iff.not.1 hleaf) 0

/-! ### One line for each part -/

theorem isLine_leaf (h : v.HasNoBreaks) : IsLine (leaf v) := by
  cases v with
  | string s =>
    have hs : IsLine s := h _ .here
    exact isLine_append.2 ⟨isLine_append.2 ⟨by decide, hs⟩, by decide⟩
  | array _ => exact (by decide : IsLine "[]")
  | object _ => exact (by decide : IsLine "\x7b\x7d")
  | _ => exact Json.isLine_writeScalar _

theorem hasNoBreaks_of_mem_entries (h : v.HasNoBreaks) (hpart : (mark, part) ∈ entries v) :
    IsLine mark ∧ part.HasNoBreaks := by
  obtain ⟨items, rfl, rfl, hitem⟩ | ⟨members, k, rfl, rfl, hmember⟩ := mem_entries hpart
  · exact ⟨by decide, (Json.everywhere_array_iff.1 h).2 part hitem⟩
  · have hall := Json.everywhere_object_iff.1 h
    exact ⟨isLine_append.2 ⟨hall.1 (k, part) hmember, by decide⟩, hall.2 (k, part) hmember⟩

theorem IsEntry.hasNoBreaks (hentry : IsEntry v entry) (h : v.HasNoBreaks) :
    IsLine entry.mark ∧ entry.value.HasNoBreaks := by
  induction hentry with
  | own hpart => exact hasNoBreaks_of_mem_entries h (List.mem_of_getElem? hpart)
  | deep hpart _ ih => exact ih (hasNoBreaks_of_mem_entries h (List.mem_of_getElem? hpart)).2

theorem IsEntry.isLine_text (hentry : IsEntry v entry) (h : v.HasNoBreaks) :
    IsLine entry.text := by
  obtain ⟨hmark, hvalue⟩ := hentry.hasNoBreaks h
  have hshown : IsLine (shown entry.value) := by
    rw [shown_eq]
    split
    · exact isLine_append.2 ⟨by decide, isLine_leaf hvalue⟩
    · decide
  exact isLine_append.2 ⟨isLine_append.2 ⟨Json.isLine_indentation _, hmark⟩, hshown⟩

theorem mark_ne_empty_of_mem_entries (hpart : (mark, part) ∈ entries v) : mark ≠ "" := by
  obtain ⟨_, -, rfl, -⟩ | ⟨_, k, -, rfl, -⟩ := mem_entries hpart
  · decide
  · simp

theorem IsEntry.text_ne_empty (hentry : IsEntry v entry) : entry.text ≠ "" := by
  have hmark : entry.mark ≠ "" := by
    induction hentry with
    | own hpart => exact mark_ne_empty_of_mem_entries (List.mem_of_getElem? hpart)
    | deep _ _ ih => exact ih
  simp [Entry.text, hmark]

/-- A collection is shown by a line for each of its parts at any depth and nothing else, in the
order of their paths and indented by two blanks for each position of the path but the first. -/
theorem display_outlines (hv : ¬ v.IsScalar) :
    display v ++ "\n" = render v ∧
      (v = .array [] → Text.lines (display v) = ["[]"]) ∧
      (v = .object [] → Text.lines (display v) = ["\x7b\x7d"]) ∧
      (isLeaf v = false → v.HasNoBreaks →
        ∃ outline : List Entry, outline.Pairwise (·.path < ·.path) ∧
          (∀ entry, entry ∈ outline ↔ IsEntry v entry) ∧
          Text.lines (display v) = outline.map Entry.text) := by
  refine ⟨display_append_break hv, ?_, ?_, ?_⟩
  · rintro rfl
    decide
  · rintro rfl
    decide
  · intro hleaf hbreaks
    refine ⟨outline v, pairwise_outline v, fun entry => mem_outline_iff, ?_⟩
    apply lines_of_append_break
    · intro text htext
      obtain ⟨entry, hentry, rfl⟩ := List.mem_map.1 htext
      exact (mem_outline_iff.1 hentry).isLine_text hbreaks
    · intro text htext
      obtain ⟨entry, hentry, rfl⟩ := List.mem_map.1 htext
      exact (mem_outline_iff.1 hentry).text_ne_empty
    · rw [display_append_break hv, render_of_not_isLeaf hleaf, lines_eq_map_outline, List.map_map]
      rfl

theorem display_outlines_nested :
    ¬ (Json.array [.array [], .object [("a ", .string " b ")]]).IsScalar ∧
      render (.array [.array [], .object [("a ", .string " b ")]]) =
        "- []\n-\n  a : \" b \"\n" ∧
      display (.array [.array [], .object [("a ", .string " b ")]]) ++ "\n" =
        render (.array [.array [], .object [("a ", .string " b ")]]) ∧
      ∃ outline : List Entry, outline.Pairwise (·.path < ·.path) ∧
        (∀ entry, entry ∈ outline ↔
          IsEntry (.array [.array [], .object [("a ", .string " b ")]]) entry) ∧
        outline.map Entry.text = ["- []", "-", "  a : \" b \""] := by
  have hv : ¬ (Json.array [.array [], .object [("a ", .string " b ")]]).IsScalar := not_false
  have hbreaks : (Json.array [.array [], .object [("a ", .string " b ")]]).HasNoBreaks := by
    have hkey : IsLine "a " := by decide
    have htext : IsLine " b " := by decide
    simp [Json.HasNoBreaks, Json.everywhere_array_iff, Json.everywhere_object_iff,
      Json.everywhere_iff_of_isScalar (v := .string " b ") trivial, hkey, htext]
  obtain ⟨hrender, -, -, houtline⟩ := display_outlines hv
  obtain ⟨outline, hsorted, hmem, hlines⟩ := houtline rfl hbreaks
  refine ⟨hv, by decide +kernel, hrender, outline, hsorted, hmem, ?_⟩
  rw [← hlines]
  decide +kernel

end Gleaner.Output.Tree
