import Gleaner.Proofs.Subject.Plain
import Mathlib.Data.List.Nodup

/-!
# Subjects that go through a document

Writing a subject as a document forgets some of it: that a key was an integer, which double without
a finite value there was, and that there was an object of the host. Reading a document forgets less:
only an integer too large for a word becomes a double. But what was read once comes back as it is,
since it is plain, and so a second way through a document changes nothing any more.

What exactly is forgotten can be said of each part on its own. A subject comes back if and only if
each of its parts has a place in a document, and a document if and only if each of its integers fits
a word.
-/

namespace Gleaner

/-- Whether a document, its parts apart, is the one that its subject is written as. -/
def Json.FitsSubject : Json → Prop
  | int n => Numeral.fitsWord n = true
  | _ => True

namespace Subject

/-! ### Parts -/

/-- Induction on subjects through the parts of collections. -/
@[elab_as_elim, induction_eliminator]
theorem induction {motive : Subject → Prop}
    (single : ∀ s, s.isCollection = false → motive s)
    (sequence : ∀ items, (∀ item ∈ items, motive item) → motive (.sequence items))
    (map : ∀ entries, (∀ entry ∈ entries, motive entry.2) → motive (.map entries)) :
    ∀ s, motive s
  | .null => single _ rfl
  | .bool _ => single _ rfl
  | .int _ => single _ rfl
  | .float _ => single _ rfl
  | .string _ => single _ rfl
  | .object _ => single _ rfl
  | .sequence items => sequence items fun item _ => induction single sequence map item
  | .map entries => map entries fun entry _ => induction single sequence map entry.2
termination_by s => sizeOf s
decreasing_by
  · have hlt := List.sizeOf_lt_of_mem ‹item ∈ items›
    simp only [Subject.sequence.sizeOf_spec]
    omega
  · have hlt := List.sizeOf_lt_of_mem ‹entry ∈ entries›
    obtain ⟨key, value⟩ := entry
    simp only [Subject.map.sizeOf_spec, Prod.mk.sizeOf_spec] at hlt ⊢
    omega

/-- A subject that stands somewhere in another one, or is it. -/
inductive OccursIn (part : Subject) : Subject → Prop
  | here : OccursIn part part
  | item {items : List Subject} {item : Subject} (hitem : item ∈ items) (h : OccursIn part item) :
      OccursIn part (sequence items)
  | entry {entries : List (Key × Subject)} {entry : Key × Subject} (hentry : entry ∈ entries)
      (h : OccursIn part entry.2) : OccursIn part (map entries)

def Everywhere (P : Subject → Prop) (s : Subject) : Prop :=
  ∀ part, part.OccursIn s → P part

section Everywhere

variable {P : Subject → Prop}

theorem everywhere_iff_of_not_isCollection {s : Subject} (h : s.isCollection = false) :
    s.Everywhere P ↔ P s := by
  constructor
  · intro hall
    exact hall s .here
  · intro hs part hpart
    cases hpart with
    | here => exact hs
    | item => cases h
    | entry => cases h

theorem everywhere_sequence_iff {items : List Subject} :
    (sequence items).Everywhere P ↔ P (sequence items) ∧ ∀ item ∈ items, item.Everywhere P := by
  constructor
  · intro hall
    exact ⟨hall _ .here, fun item hitem part hpart => hall part (.item hitem hpart)⟩
  · intro h part hpart
    cases hpart with
    | here => exact h.1
    | item hitem hpart => exact h.2 _ hitem part hpart

theorem everywhere_map_iff {entries : List (Key × Subject)} :
    (map entries).Everywhere P ↔
      P (map entries) ∧ ∀ entry ∈ entries, entry.2.Everywhere P := by
  constructor
  · intro hall
    exact ⟨hall _ .here, fun entry hentry part hpart => hall part (.entry hentry hpart)⟩
  · intro h part hpart
    cases hpart with
    | here => exact h.1
    | entry hentry hpart => exact h.2 _ hentry part hpart

end Everywhere

/-- What is true of all subjects there are: no key of a map is repeated, and an object is written as
a document that can be read. -/
def IsProper : Subject → Prop
  | map entries => (entries.map Prod.fst).Nodup
  | object o => o.rendering.IsDocument
  | _ => True

/-- Whether a document has a place for a subject, its parts apart: for maps with texts as keys and
for finite doubles, but not for objects of the host. -/
def FitsDocument : Subject → Prop
  | map entries => ∀ entry ∈ entries, ∃ text, entry.1 = .text text
  | float x => x.isFinite = true
  | object _ => False
  | _ => True

/-! ### Plain subjects, part by part -/

theorem isPlain_sequence_iff {items : List Subject} :
    (sequence items).IsPlain ↔ ∀ item ∈ items, item.IsPlain := by
  constructor
  · intro h
    cases h with
    | sequence hitems => exact hitems
  · exact .sequence

theorem isPlain_map_iff {entries : List (Key × Subject)} :
    (map entries).IsPlain ↔ (entries.map Prod.fst).Nodup ∧
      (∀ entry ∈ entries, ∃ text, entry.1 = .text text) ∧ ∀ entry ∈ entries, entry.2.IsPlain := by
  constructor
  · intro h
    cases h with
    | @map members hnames hmembers =>
      refine ⟨?_, ?_, ?_⟩
      · have hkeys := List.Nodup.map (fun _ _ heq => Key.text.inj heq) hnames
        rw [List.map_map] at hkeys ⊢
        exact hkeys
      · intro entry hentry
        obtain ⟨member, -, rfl⟩ := List.mem_map.1 hentry
        exact ⟨member.1, rfl⟩
      · intro entry hentry
        obtain ⟨member, hmember, rfl⟩ := List.mem_map.1 hentry
        exact hmembers member hmember
  · intro ⟨hkeys, htexts, hvalues⟩
    -- the entries are those of members named as the keys are written
    let members := entries.map fun entry => (entry.1.segment, entry.2)
    have hentries : members.map (fun member => (Key.text member.1, member.2)) = entries := by
      rw [List.map_map]
      conv_rhs => rw [← List.map_id entries]
      apply List.map_congr_left
      intro entry hentry
      obtain ⟨text, htext⟩ := htexts entry hentry
      simp [Prod.ext_iff, htext, Key.segment]
    have hnames : (members.map Prod.fst).Nodup := by
      apply List.Nodup.of_map Key.text
      rw [← hentries, List.map_map] at hkeys
      rw [List.map_map]
      exact hkeys
    rw [← hentries]
    apply IsPlain.map hnames
    intro member hmember
    obtain ⟨entry, hentry, rfl⟩ := List.mem_map.1 hmember
    exact hvalues entry hentry

/-- Of the subjects that there are, those are plain whose parts all have a place in a document. -/
theorem isPlain_iff {s : Subject} (hs : s.Everywhere IsProper) :
    s.IsPlain ↔ s.Everywhere FitsDocument := by
  induction s with
  | single s h =>
    rw [everywhere_iff_of_not_isCollection h]
    cases s with
    | null => exact iff_of_true .null trivial
    | bool b => exact iff_of_true (.bool b) trivial
    | int n => exact iff_of_true (.int n) trivial
    | string text => exact iff_of_true (.string text) trivial
    | float x =>
      constructor
      · intro hplain
        cases hplain with
        | float hfinite => exact hfinite
      · exact IsPlain.float
    | object o =>
      apply iff_of_false _ id
      intro hplain
      cases hplain
    | sequence items => cases h
    | map entries => cases h
  | sequence items ih =>
    rw [everywhere_sequence_iff] at hs ⊢
    rw [isPlain_sequence_iff]
    have hitems := forall₂_congr fun item hitem => ih item hitem (hs.2 item hitem)
    rw [hitems]
    exact (and_iff_right trivial).symm
  | map entries ih =>
    rw [everywhere_map_iff] at hs ⊢
    have hkeys : (entries.map Prod.fst).Nodup := hs.1
    rw [isPlain_map_iff, and_iff_right hkeys]
    have hentries := forall₂_congr fun entry hentry => ih entry hentry (hs.2 entry hentry)
    rw [hentries]
    rfl

/-! ### There and back -/

theorem isDocument_toJson {s : Subject} (hs : s.Everywhere IsProper) : s.toJson.IsDocument := by
  induction s with
  | single s h =>
    rw [everywhere_iff_of_not_isCollection h] at hs
    cases s with
    | null => exact .null
    | bool b => exact .bool b
    | int n => exact Json.isDocument_word n
    | string text => exact .string text
    | float x =>
      rw [toJson]
      split
      · rename_i hfinite
        exact .float hfinite
      · exact .null
    | object o => exact hs
    | sequence items => cases h
    | map entries => cases h
  | sequence items ih =>
    rw [everywhere_sequence_iff] at hs
    rw [toJson, toJsonItems_eq_map]
    apply Json.IsDocument.array
    intro v hv
    obtain ⟨item, hitem, rfl⟩ := List.mem_map.1 hv
    exact ih item hitem (hs.2 item hitem)
  | map entries ih =>
    rw [everywhere_map_iff] at hs
    rw [toJson, toJsonEntries_eq_map]
    apply Json.IsDocument.object (Entries.nodup_keys_ofPairs _)
    intro member hmember
    obtain ⟨entry, hentry, rfl⟩ := List.mem_map.1 (Entries.mem_of_mem_ofPairs hmember)
    exact ih entry hentry (hs.2 entry hentry)

/-- An integer comes back if and only if it fits a word: a double is no integer any more. -/
theorem toJson_ofJson_int_iff {n : Int} :
    (ofJson (.int n)).toJson = .int n ↔ Numeral.fitsWord n = true := by
  rw [ofJson]
  split
  · rename_i hfits
    apply iff_of_true _ hfits
    rw [toJson, Numeral.toInt_ofInt_of_fitsWord hfits]
  · rename_i hfits
    apply iff_of_false _ hfits
    rw [toJson]
    split
    · intro heq
      cases heq
    · intro heq
      cases heq

theorem toJson_ofJson_object {members : List (String × Json)}
    (hnames : (members.map Prod.fst).Nodup) : (ofJson (.object members)).toJson =
      .object (members.map fun member => (member.1, (ofJson member.2).toJson)) := by
  have hread : (members.map fun member => (member.1, ofJson member.2)).map Prod.fst =
      members.map Prod.fst := by
    rw [List.map_map]
    rfl
  have hwritten := toJson_map_of_nodup (hread ▸ hnames)
  rw [List.map_map, List.map_map] at hwritten
  rw [ofJson, ofJsonMembers_eq_map]
  exact hwritten

/-- A document comes back if and only if each of its integers fits a word. -/
theorem toJson_ofJson_iff {v : Json} (h : v.IsDocument) :
    (ofJson v).toJson = v ↔ v.Everywhere Json.FitsSubject := by
  induction v with
  | scalar v hscalar =>
    rw [Json.everywhere_iff_of_isScalar hscalar]
    cases h with
    | null => exact iff_of_true rfl trivial
    | bool b => exact iff_of_true rfl trivial
    | string s => exact iff_of_true rfl trivial
    | float hfinite =>
      apply iff_of_true _ trivial
      rw [ofJson, toJson, if_pos hfinite]
    | int => exact toJson_ofJson_int_iff
    | array => cases hscalar
    | object => cases hscalar
  | array items ih =>
    cases h with
    | array hitems =>
      have hback : items.map (toJson ∘ ofJson) = items.map id ↔
          ∀ item ∈ items, item.Everywhere Json.FitsSubject :=
        List.map_inj_left.trans
          (forall₂_congr fun item hitem => ih item hitem (hitems item hitem))
      rw [Json.everywhere_array_iff, ← hback, List.map_id, ofJson, toJson, ofJsonItems_eq_map,
        toJsonItems_eq_map, List.map_map, Json.array.injEq]
      exact (and_iff_right trivial).symm
  | object members ih =>
    cases h with
    | object hnames hmembers =>
      have hback : members.map (fun member => (member.1, (ofJson member.2).toJson)) =
          members.map id ↔ ∀ member ∈ members, member.2.Everywhere Json.FitsSubject := by
        apply List.map_inj_left.trans
        apply forall₂_congr
        intro member hmember
        rw [← ih member hmember (hmembers member hmember)]
        simp [Prod.ext_iff]
      rw [Json.everywhere_object_iff, ← hback, List.map_id, toJson_ofJson_object hnames,
        Json.object.injEq]
      exact (and_iff_right trivial).symm

/-- A subject that was read or written once goes through a document as it is. What changes on the
first way are large integers in a document, and in a subject all that has no place in a document.
Entries whose keys are written alike share one member, at the place of the first and with the value
of the last. -/
theorem ofJson_toJson_retracts {v : Json} {s : Subject} (hv : v.IsDocument)
    (hs : s.Everywhere IsProper) :
    ofJson (ofJson v).toJson = ofJson v ∧
    ((ofJson v).toJson = v ↔ v.Everywhere Json.FitsSubject) ∧
    ofJson (ofJson s.toJson).toJson = ofJson s.toJson ∧
    (ofJson s.toJson = s ↔ s.Everywhere FitsDocument) ∧
    ∀ entries : List (Key × Subject), ∃ members, (map entries).toJson = .object members ∧
      Entries.Denotes (entries.map fun entry => (entry.1.segment, entry.2.toJson)) members := by
  have hread : (ofJson s.toJson).IsPlain := isPlain_ofJson (isDocument_toJson hs)
  refine ⟨(isPlain_ofJson hv).ofJson_toJson, toJson_ofJson_iff hv, hread.ofJson_toJson, ?_, ?_⟩
  · rw [← isPlain_iff hs]
    constructor
    · intro heq
      rwa [heq] at hread
    · exact IsPlain.ofJson_toJson
  · intro entries
    refine ⟨_, rfl, ?_⟩
    rw [toJsonEntries_eq_map]
    exact Entries.denotes_ofPairs _

theorem ofJson_toJson_retracts_large :
    let v : Json := .array [.int (Int64.maxValue.toInt + 1)]
    let s : Subject := .map [(.int 5, .float ⟨0x7FF8000000000000⟩), (.text "5", .bool true)]
    v.IsDocument ∧ s.Everywhere IsProper ∧
      ofJson (ofJson v).toJson = ofJson v ∧ (ofJson v).toJson ≠ v ∧
      s.toJson = .object [("5", .bool true)] ∧
      ofJson (ofJson s.toJson).toJson = ofJson s.toJson ∧ ofJson s.toJson ≠ s := by
  intro v s
  have hv : v.IsDocument := by
    apply Json.IsDocument.array
    intro item hitem
    obtain rfl := List.mem_singleton.1 hitem
    exact .int (by decide) (by decide)
  have hs : s.Everywhere IsProper := by
    rw [everywhere_map_iff]
    refine ⟨(by decide : [Key.int 5, Key.text "5"].Nodup), ?_⟩
    intro entry hentry
    simp only [List.mem_cons, List.not_mem_nil, or_false] at hentry
    obtain rfl | rfl := hentry
    · exact (everywhere_iff_of_not_isCollection rfl).2 trivial
    · exact (everywhere_iff_of_not_isCollection rfl).2 trivial
  obtain ⟨hread, hback, hwritten, hforth, -⟩ := ofJson_toJson_retracts hv hs
  refine ⟨hv, hs, hread, ?_, ?_, hwritten, ?_⟩
  · intro heq
    have hfits : Numeral.fitsWord (Int64.maxValue.toInt + 1) = true :=
      hback.1 heq (.int (Int64.maxValue.toInt + 1)) (.item List.mem_cons_self .here)
    exact absurd hfits (by decide)
  · have hsegment : (Key.int 5).segment = "5" := Numeral.ofNat_of_lt (by decide : 5 < 10)
    rw [toJson, toJsonEntries_eq_map, List.map_cons, hsegment]
    rfl
  · intro heq
    obtain ⟨text, htext⟩ := hforth.1 heq s .here _ List.mem_cons_self
    cases htext

end Subject

end Gleaner
