import Gleaner.Proofs.Argument.Configuration

/-!
# Accessors as documents

An accessor is configured by a string inside as many extraction markers as it has computed layers.
That document is read back as the accessor, wherever accessors are read: by itself, and as the
marker of an extraction that stands for the value or for the key of an argument.

The reader accepts little more than what is written. Null is read as the empty path, and that is
all: an accepted document is the one of the accessor that it denotes, up to a null in the middle of
the markers.
-/

namespace Gleaner

/-- The document with the empty string for a null that stands alone or inside sole members. -/
def Json.withEmptyLeaf : Json → Json
  | .null => .string ""
  | .object [(name, inner)] => .object [(name, inner.withEmptyLeaf)]
  | other => other

namespace Accessor

theorem ofJson_eq_ok_iff {v : Json} {a : Accessor} : ofJson v = .ok a ↔ read v = .ok a :=
  Traversal.mapError_eq_ok_iff

theorem read_extraction (inner : Json) :
    read (.object [(extractMarker, inner)]) = (read inner).map computed := by
  rw [read, if_pos rfl]

theorem toJson_injective {a b : Accessor} (h : a.toJson = b.toJson) : a = b := by
  have hread : read a.toJson = read b.toJson := congrArg read h
  rw [read_toJson, read_toJson] at hread
  exact Except.ok.inj hread

theorem toJson_of_read {v : Json} (hform : AccessorForm v) {a : Accessor} (h : read v = .ok a) :
    a.toJson = v.withEmptyLeaf := by
  induction hform generalizing a with
  | null =>
    obtain rfl := Except.ok.inj h
    rfl
  | text path =>
    obtain rfl := Except.ok.inj h
    rfl
  | computed hinner ih =>
    rw [read_extraction, Traversal.map_eq_ok_iff] at h
    obtain ⟨b, hb, rfl⟩ := h
    rw [toJson, Json.withEmptyLeaf, ih hb]

theorem ofJson_eq_ok_iff_toJson {v : Json} {a : Accessor} :
    ofJson v = .ok a ↔ AccessorForm v ∧ a.toJson = v.withEmptyLeaf := by
  rw [ofJson_eq_ok_iff]
  constructor
  · intro h
    have hform : AccessorForm v := exists_readAccessor_iff.1 ⟨a, h⟩
    exact ⟨hform, toJson_of_read hform h⟩
  · rintro ⟨hform, htoJson⟩
    obtain ⟨b, hb⟩ := exists_readAccessor_iff.2 hform
    rw [toJson_injective (htoJson.trans (toJson_of_read hform hb).symm), hb]

theorem accessorForm_iff {v : Json} :
    AccessorForm v ↔ v = .null ∨ (∃ path, v = .string path) ∨
      ∃ inner, v = .object [(extractMarker, inner)] ∧ AccessorForm inner := by
  constructor
  · rintro (_ | path | hinner)
    · exact .inl rfl
    · exact .inr (.inl ⟨path, rfl⟩)
    · exact .inr (.inr ⟨_, rfl, hinner⟩)
  · rintro (rfl | ⟨path, rfl⟩ | ⟨inner, rfl, hinner⟩)
    · exact .null
    · exact .text path
    · exact .computed hinner

theorem exists_ofJson_iff {v : Json} : (∃ a, ofJson v = .ok a) ↔ AccessorForm v := by
  simp only [ofJson_eq_ok_iff]
  exact exists_readAccessor_iff

end Accessor

namespace Arguments

theorem ofJson_marker_value (name : String) (e : Extraction) :
    ofJson (.object [(name, e.marker)]) = .ok [(.literal (.text name), .extraction e)] := by
  rw [ofJson_eq_ok_iff, read, readMembers_eq_mapM, Traversal.mapM_eq_ok_iff]
  refine .cons ?_ .nil
  rw [readValue_marker]
  rfl

theorem ofJson_marker_key (e : Extraction) (value : ArgumentValue) {v : Json}
    (hv : readValue v = .ok value) :
    ofJson (.array [.object [(keyMarker, e.marker), (valueMarker, v)]]) =
      .ok [(.extraction e, value)] := by
  rw [ofJson_eq_ok_iff, read, readItems_eq_mapM, Traversal.mapM_eq_ok_iff]
  exact .cons (readItem_keyed (readKey_marker e) hv) .nil

end Arguments

/-- Writing and reading accessors are inverse. -/
theorem Accessor.ofJson_inverts_toJson :
    (∀ a : Accessor, Accessor.ofJson a.toJson = .ok a ∧
      Accessor.ofJson (Extraction.mk a).marker = .ok (.computed a) ∧
      (∀ name, Arguments.ofJson (.object [(name, (Extraction.mk a).marker)]) =
        .ok [(.literal (.text name), .extraction ⟨a⟩)]) ∧
      ∀ b : Accessor, Arguments.ofJson (.array [.object
        [(keyMarker, (Extraction.mk a).marker), (valueMarker, (Extraction.mk b).marker)]]) =
          .ok [(.extraction ⟨a⟩, .extraction ⟨b⟩)]) ∧
    ∀ v : Json,
      (∀ a, Accessor.ofJson v = .ok a ↔
        (∃ b, Accessor.ofJson v = .ok b) ∧ a.toJson = v.withEmptyLeaf) ∧
      ((∃ a, Accessor.ofJson v = .ok a) ↔ v = .null ∨ (∃ path, v = .string path) ∨
        ∃ inner, v = .object [(extractMarker, inner)] ∧ ∃ b, Accessor.ofJson inner = .ok b) := by
  constructor
  · intro a
    refine ⟨ofJson_eq_ok_iff.2 a.read_toJson, ?_, fun name => ?_, fun b => ?_⟩
    · exact ofJson_eq_ok_iff.2 (Accessor.computed a).read_toJson
    · exact Arguments.ofJson_marker_value name ⟨a⟩
    · exact Arguments.ofJson_marker_key ⟨a⟩ _ (Arguments.readValue_marker ⟨b⟩)
  · intro v
    simp only [exists_ofJson_iff]
    exact ⟨fun a => ofJson_eq_ok_iff_toJson, accessorForm_iff⟩

end Gleaner
