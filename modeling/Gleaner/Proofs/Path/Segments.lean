import Gleaner.Proofs.Text.Trim
import Gleaner.Resolver

/-!
# Segments of a path

The parts of a text between dots are those that `List.splitOn` gives, so joining them by dots gives
the text again, and parts without dots are found again in what is joined from them. The segments of
a path are the parts that are not blank. Each of them is a piece of the path, and a scope at the
head of the path belongs to the first of them.

Joined by dots, the segments are the path with nothing left in it to drop. It has the same segments,
and since a path is resolved through its segments alone, it leads from every subject to the same
result.
-/

namespace Gleaner

namespace Path

variable {c : Char} {text : List Char} {path segment : String} {parts : List String}

/-! ### Parts between dots -/

theorem splitDots_eq_splitOn (text : List Char) : splitDots text = text.splitOn '.' := by
  induction text with
  | nil => rfl
  | cons c rest ih =>
    rw [splitDots, List.splitOn_cons_eq_if_modifyHead, ih]
    simp only [beq_iff_eq]
    split
    · rfl
    · cases hrest : rest.splitOn '.' with
      | nil => exact absurd hrest (List.splitOn_ne_nil '.' rest)
      | cons part parts => rfl

/-- A dot ends the part before it, so no part of `p` runs into `q`. -/
theorem splitDots_append (p q : List Char) :
    splitDots (p ++ '.' :: q) = splitDots p ++ splitDots q := by
  simp only [splitDots_eq_splitOn, List.splitOn_append_cons_self]

theorem splitDots_of_not_mem (h : '.' ∉ text) : splitDots text = [text] := by
  rw [splitDots_eq_splitOn, List.splitOn_eq_singleton h]

theorem splitDots_append_of_not_mem {rest part : List Char} {others : List (List Char)}
    (h : '.' ∉ text) (hrest : splitDots rest = part :: others) :
    splitDots (text ++ rest) = (text ++ part) :: others := by
  induction text with
  | nil => exact hrest
  | cons c tail ih =>
    rw [List.mem_cons, not_or] at h
    rw [List.cons_append, splitDots, if_neg (Ne.symm h.1), ih h.2]
    rfl

theorem splitDots_eq_cons (text : List Char) :
    ∃ parts, splitDots text = text.takeWhile (· != '.') :: parts := by
  induction text with
  | nil => exact ⟨[], rfl⟩
  | cons c rest ih =>
    obtain ⟨parts, hparts⟩ := ih
    rw [splitDots, hparts]
    by_cases hc : c = '.'
    · exact ⟨_, by simp [hc]; rfl⟩
    · exact ⟨parts, by simp [hc]⟩

theorem infix_of_mem_splitDots {part : List Char} (h : part ∈ splitDots text) :
    part <:+: text := by
  induction text generalizing part with
  | nil =>
    obtain rfl := List.mem_singleton.1 h
    exact List.nil_infix
  | cons c rest ih =>
    obtain ⟨parts, hparts⟩ := splitDots_eq_cons rest
    rw [splitDots] at h
    split at h
    · obtain rfl | h := List.mem_cons.1 h
      · exact List.nil_infix
      · exact List.infix_cons (ih h)
    · rw [hparts] at h
      obtain rfl | h := List.mem_cons.1 h
      · have hbegins : c :: rest.takeWhile (· != '.') <+: c :: rest :=
          (List.prefix_cons_inj c).2 (List.takeWhile_prefix _)
        exact hbegins.isInfix
      · exact List.infix_cons (ih (hparts ▸ List.mem_cons_of_mem _ h))

/-- The characters of the parts are those of the text but for the dots. -/
theorem flatten_splitDots (text : List Char) :
    (splitDots text).flatten = text.filter (· != '.') := by
  induction text with
  | nil => rfl
  | cons c rest ih =>
    rw [splitDots]
    split
    case isTrue hdot =>
      rw [List.filter_cons_of_neg (by simp [hdot]), ← ih, List.flatten_cons, List.nil_append]
    case isFalse hdot =>
      rw [List.filter_cons_of_pos (by simp [hdot]), ← ih]
      cases splitDots rest with
      | nil => rfl
      | cons part parts => rfl

theorem exists_mem_splitDots_iff : (∃ part ∈ splitDots text, c ∈ part) ↔ c ∈ text ∧ c ≠ '.' := by
  rw [← List.mem_flatten, flatten_splitDots, List.mem_filter, bne_iff_ne]

theorem splitDots_intercalate (hne : parts ≠ []) (h : ∀ part ∈ parts, '.' ∉ part.toList) :
    splitDots (String.intercalate "." parts).toList = parts.map String.toList := by
  rw [String.toList_intercalate, splitDots_eq_splitOn]
  exact List.splitOn_intercalate '.' (List.forall_mem_map.2 h) (List.map_eq_nil_iff.not.2 hne)

theorem exists_eq_intercalate (path : String) :
    ∃ parts : List String, (∀ part ∈ parts, '.' ∉ part.toList) ∧
      path = String.intercalate "." parts := by
  have hchars : ((splitDots path.toList).map String.ofList).map String.toList =
      splitDots path.toList := by
    rw [List.map_map]
    exact List.map_id'' (fun _ => String.toList_ofList) _
  refine ⟨(splitDots path.toList).map String.ofList, List.forall_mem_map.2 ?_, ?_⟩
  · intro part hpart hdot
    rw [String.toList_ofList] at hdot
    exact (exists_mem_splitDots_iff.1 ⟨part, hpart, hdot⟩).2 rfl
  · apply String.toList_inj.1
    rw [String.toList_intercalate, hchars, splitDots_eq_splitOn]
    exact (List.intercalate_splitOn '.').symm

/-! ### Segments -/

/-- The texts that are segments as they stand. -/
structure IsSegment (text : String) : Prop where
  not_blank : ¬ Text.isBlank text = true
  no_dot : '.' ∉ text.toList

instance (text : String) : Decidable (IsSegment text) :=
  decidable_of_iff (¬ Text.isBlank text = true ∧ '.' ∉ text.toList)
    ⟨fun h => ⟨h.1, h.2⟩, fun h => ⟨h.not_blank, h.no_dot⟩⟩

theorem mem_segments_iff :
    segment ∈ segments path ↔
      segment.toList ∈ splitDots path.toList ∧ ¬ Text.isBlank segment = true := by
  rw [segments, List.mem_filter, List.mem_map]
  constructor
  · rintro ⟨⟨part, hpart, rfl⟩, hblank⟩
    exact ⟨by rwa [String.toList_ofList], by simpa using hblank⟩
  · rintro ⟨hpart, hblank⟩
    exact ⟨⟨segment.toList, hpart, String.ofList_toList⟩, by simpa using hblank⟩

theorem segments_append (p q : String) :
    segments (p ++ "." ++ q) = segments p ++ segments q := by
  have hchars : (p ++ "." ++ q).toList = p.toList ++ '.' :: q.toList := by
    simp [String.toList_append]
  rw [segments, segments, segments, hchars, splitDots_append, List.map_append, List.filter_append]

example : segments ("a..b::c()" ++ "." ++ " .d") = ["a", "b::c()", "d"] := by decide

theorem segments_of_not_mem {text : String} (h : '.' ∉ text.toList) :
    segments text = if Text.isBlank text then [] else [text] := by
  rw [segments, splitDots_of_not_mem h, List.map_singleton, String.ofList_toList]
  cases hblank : Text.isBlank text with
  | true => simp [hblank]
  | false => simp [hblank]

/-- Of texts without dots that are joined, the blank ones are dropped and the others are kept. -/
theorem segments_intercalate_of_no_dot (h : ∀ part ∈ parts, '.' ∉ part.toList) :
    segments (String.intercalate "." parts) = parts.filter fun part => !Text.isBlank part := by
  by_cases hne : parts = []
  · -- joined from nothing, the path still has a part, which is blank
    subst hne
    rfl
  · have htexts : (parts.map String.toList).map String.ofList = parts := by
      rw [List.map_map]
      exact List.map_id'' (fun _ => String.ofList_toList) _
    rw [segments, splitDots_intercalate hne h, htexts]

theorem segments_intercalate (h : ∀ part ∈ parts, IsSegment part) :
    segments (String.intercalate "." parts) = parts := by
  rw [segments_intercalate_of_no_dot fun part hpart => (h part hpart).no_dot, List.filter_eq_self]
  intro part hpart
  simpa using (h part hpart).not_blank

theorem isSegment_of_mem_segments (h : segment ∈ segments path) : IsSegment segment := by
  obtain ⟨hpart, hblank⟩ := mem_segments_iff.1 h
  refine ⟨hblank, fun hdot => ?_⟩
  exact (exists_mem_splitDots_iff.1 ⟨_, hpart, hdot⟩).2 rfl

theorem infix_of_mem_segments (h : segment ∈ segments path) : segment.toList <:+: path.toList :=
  infix_of_mem_splitDots (mem_segments_iff.1 h).1

theorem segments_eq_nil_iff :
    segments path = [] ↔ ∀ c ∈ path.toList, c = '.' ∨ Text.isSpace c = true := by
  have hblank : segments path = [] ↔
      ∀ part ∈ splitDots path.toList, ∀ c ∈ part, Text.isSpace c = true := by
    simp [segments, List.filter_eq_nil_iff, Text.isBlank_iff]
  rw [hblank]
  constructor
  · intro h c hc
    by_cases hdot : c = '.'
    · exact .inl hdot
    · obtain ⟨part, hpart, hmem⟩ := exists_mem_splitDots_iff.2 ⟨hc, hdot⟩
      exact .inr (h part hpart c hmem)
  · intro h part hpart c hc
    obtain ⟨hmem, hdot⟩ := exists_mem_splitDots_iff.1 ⟨part, hpart, hc⟩
    exact (h c hmem).resolve_left hdot

/-! ### Segments with scopes -/

def firstPart (path : String) : String :=
  String.ofList (path.toList.takeWhile (· != '.'))

/-- A scope at the head of a path takes the first part of what follows it into its own segment and
leaves the other segments as they are. -/
theorem segments_scope {entry : String} (h : '.' ∉ entry.toList) (rest : String) :
    ∃ others, segments (entry ++ "::" ++ rest) = (entry ++ "::" ++ firstPart rest) :: others ∧
      segments rest =
        if Text.isBlank (firstPart rest) then others else firstPart rest :: others := by
  obtain ⟨parts, hrest⟩ := splitDots_eq_cons rest.toList
  have hscope : '.' ∉ (entry ++ "::").toList := by
    simp [String.toList_append, h]
  have hblank : Text.isBlank (entry ++ "::" ++ firstPart rest) = false := by
    have hcolon : Text.isSpace ':' = false := by decide
    simp [Text.isBlank, String.toList_append, hcolon]
  refine ⟨(parts.map String.ofList).filter fun segment => !Text.isBlank segment, ?_, ?_⟩
  · have hfirst : String.ofList ((entry ++ "::").toList ++ rest.toList.takeWhile (· != '.')) =
        entry ++ "::" ++ firstPart rest := by
      rw [String.ofList_append, String.ofList_toList, firstPart]
    rw [segments, String.toList_append, splitDots_append_of_not_mem hscope hrest, List.map_cons,
      hfirst, List.filter_cons, hblank]
    rfl
  · rw [segments, hrest, List.map_cons, List.filter_cons]
    show (if (!Text.isBlank (firstPart rest)) = true then _ else _) = _
    cases Text.isBlank (firstPart rest) with
    | true => rfl
    | false => rfl

theorem unscoped_of_mem_segments (hpath : ¬ [':', ':'] <:+: path.toList)
    (h : segment ∈ segments path) : ¬ [':', ':'] <:+: segment.toList :=
  fun hsegment => hpath (hsegment.trans (infix_of_mem_segments h))

theorem not_isBlank_of_colons {text : String} (h : [':', ':'] <:+: text.toList) :
    ¬ Text.isBlank text = true := by
  intro hblank
  have hcolon : Text.isSpace ':' = true :=
    List.all_eq_true.1 hblank ':' (h.subset List.mem_cons_self)
  exact absurd hcolon (by decide)

end Path

/-! ### The canonical form -/

theorem Resolver.resolvePath_of_segments_eq {path path' : String}
    (h : Path.segments path = Path.segments path') (r : Resolver) (subject : Subject)
    (context : Context) :
    r.resolvePath subject (some path) context = r.resolvePath subject (some path') context := by
  simp only [resolvePath, Option.getD_some, resolveChain, h]

namespace Path

/-- The segments of a path are a canonical form of it. They are what is left of the texts without
dots that it is joined from when the blank ones are dropped, and a list of texts that are neither
blank nor dotted is the segments of what is joined from it. No segments are left exactly of dots and
white space, which resolve to the subject, and any path resolves as its segments do when they are
joined again. -/
theorem segments_canonical :
    (∀ path, ∃ parts : List String, (∀ part ∈ parts, '.' ∉ part.toList) ∧
      path = String.intercalate "." parts ∧
      segments path = parts.filter fun part => !Text.isBlank part) ∧
    (∀ path, ∀ segment ∈ segments path, IsSegment segment) ∧
    (∀ parts : List String, (∀ part ∈ parts, IsSegment part) →
      segments (String.intercalate "." parts) = parts) ∧
    (∀ path, (segments path = [] ↔ ∀ c ∈ path.toList, c = '.' ∨ Text.isSpace c = true) ∧
      ((∀ c ∈ path.toList, c = '.' ∨ Text.isSpace c = true) →
        ∀ (r : Resolver) (subject : Subject) (context : Context),
          r.resolvePath subject (some path) context = .ok subject)) ∧
    ∀ (path : String) (r : Resolver) (subject : Subject) (context : Context),
      r.resolvePath subject (some (String.intercalate "." (segments path))) context =
        r.resolvePath subject (some path) context := by
  refine ⟨fun path => ?_, fun _ _ => isSegment_of_mem_segments, fun _ => segments_intercalate,
    fun path => ⟨segments_eq_nil_iff, fun hblank r subject context => ?_⟩,
    fun path r subject context => ?_⟩
  · obtain ⟨parts, hdots, rfl⟩ := exists_eq_intercalate path
    exact ⟨parts, hdots, rfl, segments_intercalate_of_no_dot hdots⟩
  · have hempty : segments path = segments "" := segments_eq_nil_iff.2 hblank
    rw [Resolver.resolvePath_of_segments_eq hempty]
    rfl
  · have hsegments : ∀ segment ∈ segments path, IsSegment segment :=
      fun _ => isSegment_of_mem_segments
    exact Resolver.resolvePath_of_segments_eq (segments_intercalate hsegments) r subject context

theorem segments_canonical_spaces :
    let parts := [" a b", "c::d()"]
    let path := ".\u2003.."
    let r : Resolver := ⟨0, .silent⟩
    (∀ part ∈ parts, IsSegment part) ∧ segments " a b.c::d()" = parts ∧
      (∀ c ∈ path.toList, c = '.' ∨ Text.isSpace c = true) ∧
      r.resolvePath (.int 7) (some path) .empty = .ok (.int 7) ∧
      " a b" ∈ segments ". a b. .c::d()" ∧ IsSegment " a b" := by
  intro parts path r
  have hparts : ∀ part ∈ parts, IsSegment part := by decide
  have hpath : ∀ c ∈ path.toList, c = '.' ∨ Text.isSpace c = true :=
    segments_eq_nil_iff.1 (by decide : segments path = [])
  have hmem : " a b" ∈ segments ". a b. .c::d()" := by decide
  obtain ⟨-, hsegment, hjoined, hblank, -⟩ := segments_canonical
  exact ⟨hparts, hjoined parts hparts, hpath, (hblank path).2 hpath r (.int 7) .empty, hmem,
    hsegment _ _ hmem⟩

end Path

end Gleaner
