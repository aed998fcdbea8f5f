import Gleaner.Proofs.Argument.Grammar
import Gleaner.Proofs.Subject.Plain

/-!
# Every argument list can be configured

An argument list has a document that configures it: an array, with one element for each argument. No
marker is ever read where none is meant. Literals stand behind the literal marker, whatever they
look like; a nested list is an array again; so an element holds the key marker only if its argument
has a key. Keys that occur twice, or that would be text and number of one numeral, are kept apart,
since they are values of the elements and not names of members.
-/

namespace Gleaner

/-- Induction on values through the values of nested lists. -/
@[elab_as_elim, induction_eliminator]
theorem ArgumentValue.induction {motive : ArgumentValue → Prop}
    (literal : ∀ value, motive (.literal value)) (extraction : ∀ e, motive (.extraction e))
    (nested : ∀ args, (∀ arg ∈ args, motive arg.2) → motive (.nested args)) :
    ∀ value, motive value
  | .literal value => literal value
  | .extraction e => extraction e
  | .nested args => nested args fun arg _ => induction literal extraction nested arg.2
termination_by value => sizeOf value
decreasing_by
  have hlt := List.sizeOf_lt_of_mem ‹arg ∈ args›
  obtain ⟨key, value⟩ := arg
  simp only [ArgumentValue.nested.sizeOf_spec, Prod.mk.sizeOf_spec] at hlt ⊢
  omega

/-! ### The document of an argument list -/

def Key.toJson : Key → Json
  | int n => .int n.toInt
  | text s => .string s

def ArgumentKey.element (value : Json) : ArgumentKey → Json
  | positional => value
  | literal key => .object [(keyMarker, key.toJson), (valueMarker, value)]
  | extraction e => .object [(keyMarker, e.marker), (valueMarker, value)]

mutual

/-- The document that configures a value. -/
def ArgumentValue.configuration : ArgumentValue → Json
  | .literal value => .object [(literalMarker, value.toJson)]
  | .extraction e => e.marker
  | .nested args => .array (Arguments.elements args)

def Arguments.elements : List (ArgumentKey × ArgumentValue) → List Json
  | [] => []
  | (key, value) :: rest => key.element value.configuration :: Arguments.elements rest

end

def Arguments.configuration (args : Arguments) : Json :=
  .array (elements args)

mutual

def ArgumentValue.literals : ArgumentValue → List Subject
  | .literal value => [value]
  | .extraction _ => []
  | .nested args => Arguments.literals args

def Arguments.literals : List (ArgumentKey × ArgumentValue) → List Subject
  | [] => []
  | (_, value) :: rest => value.literals ++ Arguments.literals rest

end

theorem Arguments.elements_eq_map (args : Arguments) :
    elements args = args.map fun arg => arg.1.element arg.2.configuration := by
  induction args with
  | nil => rw [elements]; rfl
  | cons arg rest ih => rw [elements, ih, List.map_cons]

theorem Arguments.literals_eq_flatMap (args : Arguments) :
    literals args = args.flatMap fun arg => arg.2.literals := by
  induction args with
  | nil => rw [literals]; rfl
  | cons arg rest ih => rw [literals, ih, List.flatMap_cons]

/-! ### Accessors and keys read back -/

theorem Accessor.read_toJson (a : Accessor) : Accessor.read a.toJson = .ok a := by
  induction a with
  | path text => rfl
  | computed inner ih =>
    rw [toJson, Accessor.read, if_pos rfl, ih]
    rfl

theorem Accessor.isDocument_toJson (a : Accessor) : a.toJson.IsDocument := by
  induction a with
  | path text => exact .string text
  | computed inner ih => exact .object (List.nodup_singleton _) (List.forall_mem_singleton.2 ih)

theorem Extraction.isDocument_marker (e : Extraction) : e.marker.IsDocument :=
  .object (List.nodup_singleton _) (List.forall_mem_singleton.2 e.accessor.isDocument_toJson)

theorem Key.isDocument_toJson (key : Key) : key.toJson.IsDocument := by
  cases key with
  | int n => exact Json.isDocument_word n
  | text s => exact .string s

namespace Arguments

theorem readObject_marker (e : Extraction) :
    readObject [(extractMarker, e.accessor.toJson)] = .ok (.extraction e) := by
  rw [readObject_extraction, Accessor.read_toJson]
  rfl

theorem readValue_marker (e : Extraction) : readValue e.marker = .ok (.extraction e) := by
  rw [Extraction.marker, readValue, readObject_marker]

theorem readKey_toJson (key : Key) : readKey key.toJson = .ok (.literal key) := by
  cases key with
  | int n =>
    rw [Key.toJson, readKey, if_pos (Numeral.fitsWord_toInt n), Int64.ofInt_toInt]
  | text s => rw [Key.toJson, readKey]

theorem readKey_marker (e : Extraction) : readKey e.marker = .ok (.extraction e) := by
  rw [Extraction.marker, readKey, readObject_marker]
  rfl

/-! ### Elements read back -/

theorem isDocument_keyed {key value : Json} (hkey : key.IsDocument) (hvalue : value.IsDocument) :
    (Json.object [(keyMarker, key), (valueMarker, value)]).IsDocument := by
  refine .object ?_ ?_
  · show [keyMarker, valueMarker].Nodup
    decide
  · exact List.forall_mem_cons.2 ⟨hkey, List.forall_mem_singleton.2 hvalue⟩

theorem isDocument_element {value : Json} (hvalue : value.IsDocument) (key : ArgumentKey) :
    (key.element value).IsDocument := by
  cases key with
  | positional => exact hvalue
  | literal key => exact isDocument_keyed key.isDocument_toJson hvalue
  | extraction e => exact isDocument_keyed e.isDocument_marker hvalue

theorem readItem_keyed {k v : Json} {key : ArgumentKey} {value : ArgumentValue}
    (hk : readKey k = .ok key) (hv : readValue v = .ok value) :
    readItem (.object [(keyMarker, k), (valueMarker, v)]) = .ok (key, value) := by
  rw [readItem_of_has List.mem_cons_self, readKeyed_of_perm .rfl, Traversal.bind_eq_ok_iff]
  exact ⟨key, hk, Traversal.bind_eq_ok_iff.2 ⟨value, hv, rfl⟩⟩

theorem readItem_element {v : Json} {value : ArgumentValue} (hmarker : ¬ v.Has keyMarker)
    (hv : readValue v = .ok value) (key : ArgumentKey) :
    readItem (key.element v) = .ok (key, value) := by
  cases key with
  | positional =>
    rw [ArgumentKey.element, readItem_of_not_has hmarker, hv]
    rfl
  | literal key => exact readItem_keyed (readKey_toJson key) hv
  | extraction e => exact readItem_keyed (readKey_marker e) hv

theorem not_has_configuration (value : ArgumentValue) :
    ¬ value.configuration.Has keyMarker := by
  cases value with
  | literal value =>
    show keyMarker ∉ [literalMarker]
    decide
  | extraction e =>
    show keyMarker ∉ [extractMarker]
    decide
  | nested args => exact id

/-! ### Lists read back -/

theorem readItems_elements {args : Arguments}
    (h : ∀ arg ∈ args, readValue arg.2.configuration = .ok arg.2) :
    readItems (elements args) = .ok args := by
  rw [readItems_eq_mapM, Traversal.mapM_eq_ok_iff, elements_eq_map, List.forall₂_map_left_iff,
    List.forall₂_same]
  exact fun arg harg => readItem_element (not_has_configuration arg.2) (h arg harg) arg.1

theorem isDocument_elements {args : Arguments}
    (h : ∀ arg ∈ args, arg.2.configuration.IsDocument) :
    (Json.array (elements args)).IsDocument := by
  rw [elements_eq_map]
  refine .array fun item hitem => ?_
  obtain ⟨arg, harg, rfl⟩ := List.mem_map.1 hitem
  exact isDocument_element (h arg harg) arg.1

theorem readValue_configuration (value : ArgumentValue)
    (hplain : ∀ literal ∈ value.literals, literal.IsPlain) :
    value.configuration.IsDocument ∧ readValue value.configuration = .ok value := by
  induction value with
  | literal value =>
    have hvalue : value.IsPlain := hplain value List.mem_cons_self
    rw [ArgumentValue.configuration, readValue, readObject_data, hvalue.ofJson_toJson]
    refine ⟨.object (List.nodup_singleton _) (List.forall_mem_singleton.2 ?_), rfl⟩
    exact hvalue.isDocument_toJson
  | extraction e =>
    rw [ArgumentValue.configuration]
    exact ⟨e.isDocument_marker, readValue_marker e⟩
  | nested args ih =>
    rw [ArgumentValue.literals, literals_eq_flatMap] at hplain
    have hargs : ∀ arg ∈ args, arg.2.configuration.IsDocument ∧
        readValue arg.2.configuration = .ok arg.2 := fun arg harg =>
      ih arg harg fun literal hliteral => hplain literal (List.mem_flatMap_of_mem harg hliteral)
    rw [ArgumentValue.configuration, readValue,
      readItems_elements fun arg harg => (hargs arg harg).2]
    exact ⟨isDocument_elements fun arg harg => (hargs arg harg).1, rfl⟩

/-- Every argument list whose literals are what documents denote is configured by a document that
can be read. -/
theorem ofJson_configuration (args : Arguments)
    (hliterals : ∀ value ∈ literals args, ∃ v : Json, v.IsDocument ∧ Subject.ofJson v = value) :
    args.configuration.IsDocument ∧ ofJson args.configuration = .ok args := by
  have hplain : ∀ value ∈ (ArgumentValue.nested args).literals, value.IsPlain := by
    intro value hvalue
    rw [ArgumentValue.literals] at hvalue
    obtain ⟨v, hv, rfl⟩ := hliterals value hvalue
    exact Subject.isPlain_ofJson hv
  -- as a list, the document of a nested list is that of the list
  obtain ⟨hdocument, hvalue⟩ := readValue_configuration (.nested args) hplain
  rw [ArgumentValue.configuration] at hdocument hvalue
  rw [readValue, Traversal.map_eq_ok_iff] at hvalue
  obtain ⟨read, hread, hsame⟩ := hvalue
  obtain rfl := ArgumentValue.nested.inj hsame
  exact ⟨hdocument, ofJson_eq_ok_iff.2 hread⟩

/-- Literals that look like markers, keys that occur twice or share a numeral, and a list within a
list. -/
theorem ofJson_configuration_markers :
    let args : Arguments :=
      [(.positional, .literal (.map [(.text "$extract", .string "a")])),
        (.literal (.int 0), .nested [(.extraction ⟨.computed (.path "k")⟩, .literal .null)]),
        (.literal (.text "0"), .extraction ⟨.path "a.b"⟩),
        (.literal (.text "0"), .literal (.sequence [.int (-1)]))]
    (∀ value ∈ literals args, ∃ v : Json, v.IsDocument ∧ Subject.ofJson v = value) ∧
      args.configuration.IsDocument ∧ ofJson args.configuration = .ok args := by
  intro args
  have hliterals : ∀ value ∈ literals args,
      ∃ v : Json, v.IsDocument ∧ Subject.ofJson v = value := by
    have hall : literals args =
        [.map [(.text "$extract", .string "a")], .null, .sequence [.int (-1)]] := by rfl
    rw [hall]
    refine List.forall_mem_cons.2 ⟨?_, List.forall_mem_cons.2 ⟨?_, List.forall_mem_singleton.2 ?_⟩⟩
    · exact ⟨.object [("$extract", .string "a")],
        .object (List.nodup_singleton _) (List.forall_mem_singleton.2 (.string "a")), rfl⟩
    · exact ⟨.null, .null, rfl⟩
    · exact ⟨.array [.int (-1)],
        .array (List.forall_mem_singleton.2 (.int (by decide) (by decide))), rfl⟩
  exact ⟨hliterals, ofJson_configuration args hliterals⟩

end Arguments

end Gleaner
