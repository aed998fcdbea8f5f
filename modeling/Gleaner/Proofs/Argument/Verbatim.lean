import Gleaner.Proofs.Argument.Accessor
import Gleaner.Proofs.Argument.Unexpanded

/-!
# Arguments reported as they were configured

A report shows an argument list as an object. That is the object from which the list was read, to
the letter, if nothing in it was written in another way than reports write it: scalars that a
subject can hold, markers of extractions that end in a path, and objects of such values.

Nothing else comes back. An array is shown as an object, the literal marker is gone, a path that was
given as null is shown as the empty one, and an integer too large for a word is a double by then. So
the objects that come back are told by their values, one level after another.
-/

namespace Gleaner

/-- The documents of accessors that end in a path. -/
inductive PathForm : Json → Prop
  | text (path : String) : PathForm (.string path)
  | computed {inner : Json} (hinner : PathForm inner) :
      PathForm (.object [(extractMarker, inner)])

/-- The documents of values that are reported as they are. -/
inductive VerbatimForm : Json → Prop
  | scalar {v : Json} (hscalar : v.IsScalar) (hfits : v.FitsSubject) : VerbatimForm v
  | extraction {inner : Json} (hinner : PathForm inner) :
      VerbatimForm (.object [(extractMarker, inner)])
  | named {members : List (String × Json)}
      (hextract : ¬ (Json.object members).Has extractMarker)
      (hliteral : ¬ (Json.object members).Has literalMarker)
      (hmembers : ∀ member ∈ members, VerbatimForm member.2) : VerbatimForm (.object members)

/-! ### The forms and the grammar -/

theorem PathForm.accessorForm {v : Json} (h : PathForm v) : AccessorForm v := by
  induction h with
  | text path => exact .text path
  | computed _ ih => exact .computed ih

theorem AccessorForm.withEmptyLeaf_eq_iff {v : Json} (h : AccessorForm v) :
    v.withEmptyLeaf = v ↔ PathForm v := by
  induction h with
  | null => exact iff_of_false nofun nofun
  | text path => exact iff_of_true rfl (.text path)
  | @computed inner _ ih =>
    have hinner : PathForm (.object [(extractMarker, inner)]) ↔ PathForm inner := by
      constructor
      · rintro (_ | hinner)
        exact hinner
      · exact .computed
    rw [hinner, ← ih, Json.withEmptyLeaf]
    simp

theorem VerbatimForm.of_pathForm {v : Json} (h : PathForm v) : VerbatimForm v := by
  cases h with
  | text path => exact .scalar trivial trivial
  | computed hinner => exact .extraction hinner

theorem VerbatimForm.valueForm {v : Json} (h : VerbatimForm v) : Arguments.ValueForm v := by
  induction h with
  | scalar hscalar _ => exact .scalar hscalar
  | extraction hinner => exact .extraction hinner.accessorForm
  | named hextract hliteral _ ih => exact .named hextract hliteral ih

theorem VerbatimForm.of_member {members : List (String × Json)}
    (h : VerbatimForm (.object members)) : ∀ member ∈ members, VerbatimForm member.2 := by
  cases h with
  | scalar hscalar => exact hscalar.elim
  | extraction hinner => exact List.forall_mem_singleton.2 (.of_pathForm hinner)
  | named _ _ hmembers => exact hmembers

theorem verbatimForm_iff_of_isScalar {v : Json} (h : v.IsScalar) :
    VerbatimForm v ↔ v.FitsSubject := by
  constructor
  · intro hform
    cases hform with
    | scalar _ hfits => exact hfits
    | extraction => exact h.elim
    | named => exact h.elim
  · exact .scalar h

theorem verbatimForm_object_iff {members : List (String × Json)} :
    VerbatimForm (.object members) ↔
      (∃ inner, members = [(extractMarker, inner)] ∧ PathForm inner) ∨
      (¬ (Json.object members).Has extractMarker ∧ ¬ (Json.object members).Has literalMarker ∧
        ∀ member ∈ members, VerbatimForm member.2) := by
  constructor
  · intro h
    generalize hv : Json.object members = v at h
    cases h with
    | scalar hscalar =>
      subst hv
      exact hscalar.elim
    | extraction hinner => exact .inl ⟨_, Json.object.inj hv, hinner⟩
    | named hextract hliteral hmembers =>
      obtain rfl := Json.object.inj hv
      exact .inr ⟨hextract, hliteral, hmembers⟩
  · rintro (⟨inner, rfl, hinner⟩ | ⟨hextract, hliteral, hmembers⟩)
    · exact .extraction hinner
    · exact .named hextract hliteral hmembers

theorem verbatimForm_extraction_iff {inner : Json} :
    VerbatimForm (.object [(extractMarker, inner)]) ↔ PathForm inner := by
  rw [verbatimForm_object_iff]
  constructor
  · rintro (⟨_, ⟨⟩, hinner⟩ | ⟨hextract, -⟩)
    · exact hinner
    · exact absurd List.mem_cons_self hextract
  · exact fun hinner => .inl ⟨inner, rfl, hinner⟩

theorem not_verbatimForm_literal (v : Json) : ¬ VerbatimForm (.object [(literalMarker, v)]) := by
  have hmarkers : literalMarker ≠ extractMarker := by decide
  rw [verbatimForm_object_iff]
  rintro (⟨inner, hsole, -⟩ | ⟨-, hliteral, -⟩)
  · exact hmarkers (Prod.mk.inj (List.cons.inj hsole).1).1
  · exact hliteral List.mem_cons_self

theorem verbatimForm_named_iff {members : List (String × Json)}
    (hextract : ¬ (Json.object members).Has extractMarker)
    (hliteral : ¬ (Json.object members).Has literalMarker) :
    VerbatimForm (.object members) ↔ ∀ member ∈ members, VerbatimForm member.2 :=
  ⟨VerbatimForm.of_member, .named hextract hliteral⟩

/-! ### Values -/

/-- A document never becomes a member of itself on its way through a subject. -/
theorem Subject.toJson_ofJson_ne_object {v : Json} (h : v.IsDocument) (name : String) :
    (Subject.ofJson v).toJson ≠ .object [(name, v)] := by
  induction h generalizing name with
  | int =>
    rw [ofJson]
    split
    · rintro ⟨⟩
    · rw [toJson]
      split
      · rintro ⟨⟩
      · rintro ⟨⟩
  | float hfinite =>
    rw [ofJson, toJson, if_pos hfinite]
    rintro ⟨⟩
  | @object members hnames hmembers ih =>
    rw [toJson_ofJson_object hnames]
    intro heq
    -- a sole member would have to become the whole object
    obtain ⟨member, rfl, hsole⟩ := List.map_eq_singleton_iff.1 (Json.object.inj heq)
    obtain ⟨hname, hvalue⟩ := Prod.mk.inj hsole
    exact ih member List.mem_cons_self member.1 hvalue
  | _ => rintro ⟨⟩

namespace Arguments

theorem readMembers_eq_ok_iff {members : List (String × Json)} {args : Arguments} :
    readMembers members = .ok args ↔
      List.Forall₂ (fun member arg => arg.1 = .literal (.text member.1) ∧
        readValue member.2 = .ok arg.2) members args := by
  have hread : ∀ (member : String × Json) (arg : ArgumentKey × ArgumentValue),
      (readValue member.2).map (fun value => (ArgumentKey.literal (.text member.1), value)) =
        .ok arg ↔ arg.1 = .literal (.text member.1) ∧ readValue member.2 = .ok arg.2 := by
    rintro member ⟨key, value⟩
    rw [Traversal.map_eq_ok_iff]
    constructor
    · rintro ⟨_, hvalue, ⟨⟩⟩
      exact ⟨rfl, hvalue⟩
    · rintro ⟨rfl, hvalue⟩
      exact ⟨value, hvalue, rfl⟩
  rw [readMembers_eq_mapM, Traversal.mapM_eq_ok_iff]
  simp only [hread]

theorem names_toJsonFrom {members : List (String × Json)} {args : Arguments}
    (h : List.Forall₂ (fun member arg => arg.1 = .literal (.text member.1) ∧
      readValue member.2 = .ok arg.2) members args) (position : Nat) :
    (toJsonFrom position args).map Prod.fst = members.map Prod.fst := by
  induction h generalizing position with
  | nil => rw [toJsonFrom]
  | @cons member arg members args hhead _ ih =>
    obtain ⟨key, value⟩ := arg
    obtain ⟨rfl, -⟩ := hhead
    rw [toJsonFrom, List.map_cons, List.map_cons, ih]
    rfl

/-- One level: members are shown as they were if their values are. -/
theorem toJsonFrom_eq_members_iff {members : List (String × Json)} {args : Arguments}
    (h : List.Forall₂ (fun member arg => arg.1 = .literal (.text member.1) ∧
      readValue member.2 = .ok arg.2) members args)
    (hvalues : ∀ member ∈ members, ∀ value, readValue member.2 = .ok value →
      (value.toJson = member.2 ↔ VerbatimForm member.2)) (position : Nat) :
    toJsonFrom position args = members ↔ ∀ member ∈ members, VerbatimForm member.2 := by
  induction h generalizing position with
  | nil => exact iff_of_true (by rw [toJsonFrom]) nofun
  | @cons member arg members args hhead _ ih =>
    obtain ⟨key, value⟩ := arg
    obtain ⟨rfl, hread⟩ := hhead
    obtain ⟨hvalue, hrest⟩ := List.forall_mem_cons.1 hvalues
    have hshown : (member.1, value.toJson) = member ↔ VerbatimForm member.2 := by
      rw [← hvalue value hread, Prod.ext_iff]
      exact and_iff_right rfl
    rw [toJsonFrom, List.cons.injEq, List.forall_mem_cons, ih hrest, ← hshown]
    rfl

theorem toJson_eq_object_iff {members : List (String × Json)} {args : Arguments}
    (hnames : (members.map Prod.fst).Nodup) (h : readMembers members = .ok args)
    (hvalues : ∀ member ∈ members, ∀ value, readValue member.2 = .ok value →
      (value.toJson = member.2 ↔ VerbatimForm member.2)) :
    args.toJson = .object members ↔ ∀ member ∈ members, VerbatimForm member.2 := by
  have hargs := readMembers_eq_ok_iff.1 h
  have hshown : ((toJsonFrom 0 args).map Prod.fst).Nodup := by
    rwa [names_toJsonFrom hargs]
  rw [Arguments.toJson, Entries.ofPairs_of_nodup hshown, Json.object.injEq,
    toJsonFrom_eq_members_iff hargs hvalues]

/-- A value is shown as the document from which it was read exactly if that has the form. -/
theorem toJson_of_readValue_iff {v : Json} (hv : v.IsDocument) {value : ArgumentValue}
    (h : readValue v = .ok value) : value.toJson = v ↔ VerbatimForm v := by
  induction v generalizing value with
  | scalar v hscalar =>
    rw [readValue_of_isScalar hscalar] at h
    obtain rfl := Except.ok.inj h
    rw [ArgumentValue.toJson, Subject.toJson_ofJson_iff hv, Json.everywhere_iff_of_isScalar hscalar,
      verbatimForm_iff_of_isScalar hscalar]
  | array items _ =>
    rw [readValue, Traversal.map_eq_ok_iff] at h
    obtain ⟨args, -, rfl⟩ := h
    refine iff_of_false ?_ ?_
    · rw [ArgumentValue.toJson]
      rintro ⟨⟩
    · rintro (hscalar | _ | _)
      exact hscalar
  | object members ih =>
    rw [readValue, readObject_eq_ok_iff] at h
    obtain ⟨inner, a, rfl, ha, rfl⟩ | ⟨v, rfl, rfl⟩ | ⟨hextract, hliteral, args, hargs, rfl⟩ := h
    · have hinner : AccessorForm inner := exists_readAccessor_iff.1 ⟨a, ha⟩
      rw [verbatimForm_extraction_iff, ← hinner.withEmptyLeaf_eq_iff,
        ← Accessor.toJson_of_read hinner ha, ArgumentValue.toJson, Extraction.marker]
      simp
    · cases hv with
      | object _ hmembers =>
        have hv : v.IsDocument := hmembers _ List.mem_cons_self
        exact iff_of_false (Subject.toJson_ofJson_ne_object hv literalMarker)
          (not_verbatimForm_literal v)
    · cases hv with
      | object hnames hmembers =>
        rw [ArgumentValue.toJson_nested, verbatimForm_named_iff hextract hliteral]
        refine toJson_eq_object_iff hnames hargs fun member hmember value hvalue => ?_
        exact ih member hmember (hmembers member hmember) hvalue

/-! ### Lists -/

/-- An object in which every value has the form that reports write configures an argument list, and
the report shows that object again, with all members in order. At the top the markers are names like
any other; but for that, an object that configures a list is shown again only if it has the form. -/
theorem toJson_ofJson_verbatim {members : List (String × Json)}
    (hdocument : (Json.object members).IsDocument) :
    (VerbatimForm (.object members) →
      ∃ args, ofJson (.object members) = .ok args ∧ args.toJson = .object members) ∧
    ∀ args, ofJson (.object members) = .ok args →
      (args.toJson = .object members ↔ ∀ member ∈ members, VerbatimForm member.2) := by
  cases hdocument with
  | object hnames hmembers =>
    have hexact : ∀ args, ofJson (.object members) = .ok args →
        (args.toJson = .object members ↔ ∀ member ∈ members, VerbatimForm member.2) := by
      intro args hargs
      refine toJson_eq_object_iff hnames (ofJson_eq_ok_iff.1 hargs) ?_
      exact fun member hmember value hvalue =>
        toJson_of_readValue_iff (hmembers member hmember) hvalue
    refine ⟨fun hform => ?_, hexact⟩
    have haccepted : ListForm (.object members) :=
      .named fun member hmember => (hform.of_member member hmember).valueForm
    obtain ⟨args, hread⟩ := (exists_readList_iff (.object members)).2 haccepted
    have hargs := ofJson_eq_ok_iff.2 hread
    exact ⟨args, hargs, (hexact args hargs).2 hform.of_member⟩

theorem toJson_ofJson_verbatim_nested :
    let options : List (String × Json) := [("$key", .int (-7)), ("empty", .object [])]
    let members : List (String × Json) :=
      [("rate", .object [("$extract", .object [("$extract", .string "settings::rate")])]),
        ("options", .object options), ("whole", .object [("$extract", .string "")])]
    (Json.object members).IsDocument ∧ VerbatimForm (.object members) ∧
      ∃ args, ofJson (.object members) = .ok args ∧ args.toJson = .object members := by
  intro options members
  have hoptions : (Json.object options).IsDocument := by
    refine .object (by decide : ["$key", "empty"].Nodup) ?_
    exact List.forall_mem_cons.2 ⟨.int (by decide) (by decide),
      List.forall_mem_singleton.2 (.object List.nodup_nil nofun)⟩
  have hdocument : (Json.object members).IsDocument := by
    refine .object (by decide : ["rate", "options", "whole"].Nodup) ?_
    refine List.forall_mem_cons.2 ⟨?_, List.forall_mem_cons.2 ⟨hoptions, ?_⟩⟩
    · exact Extraction.isDocument_marker ⟨.computed (.path "settings::rate")⟩
    · exact List.forall_mem_singleton.2 (Extraction.isDocument_marker ⟨.path ""⟩)
  have hform : VerbatimForm (.object members) := by
    refine .named (by decide : "$extract" ∉ ["rate", "options", "whole"])
      (by decide : "$literal" ∉ ["rate", "options", "whole"]) ?_
    refine List.forall_mem_cons.2 ⟨.extraction (.computed (.text _)), List.forall_mem_cons.2 ⟨?_,
      List.forall_mem_singleton.2 (.extraction (.text ""))⟩⟩
    refine .named (by decide : "$extract" ∉ ["$key", "empty"])
      (by decide : "$literal" ∉ ["$key", "empty"]) ?_
    exact List.forall_mem_cons.2 ⟨.scalar trivial rfl,
      List.forall_mem_singleton.2 (.named List.not_mem_nil List.not_mem_nil nofun)⟩
  exact ⟨hdocument, hform, (toJson_ofJson_verbatim hdocument).1 hform⟩

end Arguments

end Gleaner
