import Gleaner.Json.Basic

/-!
# Documents that can be read

Every document is a scalar or a collection of documents, and what is shown of a collection from its
parts holds of all documents. Not every value of the data type is a document that a reader can hand
over: such a document has integers of 64 bits, with or without a sign, doubles that are finite, and
no member twice.
-/

namespace Gleaner.Json

def IsScalar : Json → Prop
  | array _ => False
  | object _ => False
  | _ => True

def Has (name : String) : Json → Prop
  | object members => name ∈ members.map Prod.fst
  | _ => False

/-- Induction on documents through the parts of collections. -/
@[elab_as_elim, induction_eliminator]
theorem induction {motive : Json → Prop} (scalar : ∀ v, v.IsScalar → motive v)
    (array : ∀ items, (∀ item ∈ items, motive item) → motive (.array items))
    (object : ∀ members, (∀ member ∈ members, motive member.2) → motive (.object members)) :
    ∀ v, motive v
  | .null => scalar _ trivial
  | .bool _ => scalar _ trivial
  | .int _ => scalar _ trivial
  | .float _ => scalar _ trivial
  | .string _ => scalar _ trivial
  | .array items => array items fun item _ => induction scalar array object item
  | .object members => object members fun member _ => induction scalar array object member.2
termination_by v => sizeOf v
decreasing_by
  · have hlt := List.sizeOf_lt_of_mem ‹item ∈ items›
    simp only [Json.array.sizeOf_spec]
    omega
  · have hlt := List.sizeOf_lt_of_mem ‹member ∈ members›
    obtain ⟨name, value⟩ := member
    simp only [Json.object.sizeOf_spec, Prod.mk.sizeOf_spec] at hlt ⊢
    omega

/-- A document that stands somewhere in another one, or is it. -/
inductive OccursIn (part : Json) : Json → Prop
  | here : OccursIn part part
  | item {items : List Json} {item : Json} (hitem : item ∈ items) (h : OccursIn part item) :
      OccursIn part (array items)
  | member {members : List (String × Json)} {member : String × Json} (hmember : member ∈ members)
      (h : OccursIn part member.2) : OccursIn part (object members)

/-- What holds of a document at any depth. -/
def Everywhere (P : Json → Prop) (v : Json) : Prop :=
  ∀ part, part.OccursIn v → P part

section Everywhere

variable {P : Json → Prop}

theorem everywhere_iff_of_isScalar {v : Json} (h : v.IsScalar) : v.Everywhere P ↔ P v := by
  constructor
  · intro hall
    exact hall v .here
  · intro hv part hpart
    cases hpart with
    | here => exact hv
    | item => cases h
    | member => cases h

theorem everywhere_array_iff {items : List Json} :
    (array items).Everywhere P ↔ P (array items) ∧ ∀ item ∈ items, item.Everywhere P := by
  constructor
  · intro hall
    exact ⟨hall _ .here, fun item hitem part hpart => hall part (.item hitem hpart)⟩
  · intro h part hpart
    cases hpart with
    | here => exact h.1
    | item hitem hpart => exact h.2 _ hitem part hpart

theorem everywhere_object_iff {members : List (String × Json)} :
    (object members).Everywhere P ↔
      P (object members) ∧ ∀ member ∈ members, member.2.Everywhere P := by
  constructor
  · intro hall
    exact ⟨hall _ .here, fun member hmember part hpart => hall part (.member hmember hpart)⟩
  · intro h part hpart
    cases hpart with
    | here => exact h.1
    | member hmember hpart => exact h.2 _ hmember part hpart

end Everywhere

/-- The documents that can be read. -/
inductive IsDocument : Json → Prop
  | null : IsDocument null
  | bool (b : Bool) : IsDocument (bool b)
  | int {n : Int} (hlow : Int64.minValue.toInt ≤ n) (hhigh : n < UInt64.size) : IsDocument (int n)
  | float {x : Binary64} (hfinite : x.isFinite) : IsDocument (float x)
  | string (s : String) : IsDocument (string s)
  | array {items : List Json} (hitems : ∀ item ∈ items, IsDocument item) :
      IsDocument (array items)
  | object {members : List (String × Json)} (hnames : (members.map Prod.fst).Nodup)
      (hmembers : ∀ member ∈ members, IsDocument member.2) : IsDocument (object members)

theorem isDocument_word (n : Int64) : (int n.toInt).IsDocument :=
  .int n.minValue_le_toInt (Int.lt_of_le_of_lt n.toInt_le (by decide))

end Gleaner.Json
