import Gleaner.Proofs.Argument.Grammar

/-!
# What documents of arguments mean

For each form of the grammar it is written down here which accessor, key, value, argument or list a
document of that form stands for. The reader gives a list if and only if the document stands for it,
by induction on the document, with one lemma for each way in which a document falls into parts.
-/

namespace Gleaner

/-- The accessor that a document stands for. -/
inductive AccessorMeans : Json → Accessor → Prop
  | null : AccessorMeans .null (.path "")
  | text (path : String) : AccessorMeans (.string path) (.path path)
  | computed {inner : Json} {a : Accessor} (hinner : AccessorMeans inner a) :
      AccessorMeans (.object [(extractMarker, inner)]) (.computed a)

namespace Arguments

inductive KeyMeans : Json → ArgumentKey → Prop
  | text (s : String) : KeyMeans (.string s) (.literal (.text s))
  | word (n : Int64) : KeyMeans (.int n.toInt) (.literal (.int n))
  | extraction {inner : Json} {a : Accessor} (hinner : AccessorMeans inner a) :
      KeyMeans (.object [(extractMarker, inner)]) (.extraction ⟨a⟩)

mutual

/-- The value that a document stands for. -/
inductive ValueMeans : Json → ArgumentValue → Prop
  | scalar {v : Json} (hscalar : v.IsScalar) : ValueMeans v (.literal (.ofJson v))
  | extraction {inner : Json} {a : Accessor} (hinner : AccessorMeans inner a) :
      ValueMeans (.object [(extractMarker, inner)]) (.extraction ⟨a⟩)
  | data (v : Json) : ValueMeans (.object [(literalMarker, v)]) (.literal (.ofJson v))
  | named {members : List (String × Json)} {args : Arguments}
      (hextract : ¬ (Json.object members).Has extractMarker)
      (hliteral : ¬ (Json.object members).Has literalMarker)
      (hmembers : List.Forall₂ MemberMeans members args) :
      ValueMeans (.object members) (.nested args)
  | listed {items : List Json} {args : Arguments}
      (hitems : List.Forall₂ ElementMeans items args) : ValueMeans (.array items) (.nested args)

/-- The argument that a member of an object stands for. -/
inductive MemberMeans : String × Json → ArgumentKey × ArgumentValue → Prop
  | named (name : String) {v : Json} {value : ArgumentValue} (hvalue : ValueMeans v value) :
      MemberMeans (name, v) (.literal (.text name), value)

/-- The argument that an element of an array stands for. -/
inductive ElementMeans : Json → ArgumentKey × ArgumentValue → Prop
  | keyed {members : List (String × Json)} {k v : Json} {key : ArgumentKey}
      {value : ArgumentValue} (hmembers : members.Perm [(keyMarker, k), (valueMarker, v)])
      (hkey : KeyMeans k key) (hvalue : ValueMeans v value) :
      ElementMeans (.object members) (key, value)
  | positional {item : Json} {value : ArgumentValue} (hkey : ¬ item.Has keyMarker)
      (hvalue : ValueMeans item value) : ElementMeans item (.positional, value)

end

inductive ListMeans : Json → Arguments → Prop
  | null : ListMeans .null []
  | named {members : List (String × Json)} {args : Arguments}
      (hmembers : List.Forall₂ MemberMeans members args) : ListMeans (.object members) args
  | listed {items : List Json} {args : Arguments}
      (hitems : List.Forall₂ ElementMeans items args) : ListMeans (.array items) args

end Arguments

/-! ### Accessors and keys -/

theorem readAccessor_eq_ok_iff {v : Json} {a : Accessor} :
    Accessor.read v = .ok a ↔ AccessorMeans v a := by
  constructor
  · intro h
    have hform : AccessorForm v := exists_readAccessor_iff.1 ⟨a, h⟩
    induction hform generalizing a with
    | null =>
      obtain rfl := Except.ok.inj h
      exact .null
    | text path =>
      obtain rfl := Except.ok.inj h
      exact .text path
    | computed _ ih =>
      rw [Accessor.read, if_pos rfl, Traversal.map_eq_ok_iff] at h
      obtain ⟨b, hb, rfl⟩ := h
      exact .computed (ih hb)
  · intro h
    induction h with
    | null => rfl
    | text path => rfl
    | computed _ ih =>
      rw [Accessor.read, if_pos rfl, ih]
      rfl

namespace Arguments

theorem readKey_iff_keyMeans {v : Json} {key : ArgumentKey} :
    readKey v = .ok key ↔ KeyMeans v key := by
  rw [readKey_eq_ok_iff]
  constructor
  · rintro (⟨s, rfl, rfl⟩ | ⟨n, rfl, rfl⟩ | ⟨inner, a, rfl, ha, rfl⟩)
    · exact .text s
    · exact .word n
    · exact .extraction (readAccessor_eq_ok_iff.1 ha)
  · rintro (⟨s⟩ | ⟨n⟩ | hinner)
    · exact .inl ⟨s, rfl, rfl⟩
    · exact .inr (.inl ⟨n, rfl, rfl⟩)
    · exact .inr (.inr ⟨_, _, rfl, readAccessor_eq_ok_iff.2 hinner, rfl⟩)

/-! ### Array elements, once their values are known -/

section Element

variable {item : Json} {arg : ArgumentKey × ArgumentValue} (hkey : ¬ item.Has keyMarker)
include hkey

theorem elementMeans_iff_of_not_has :
    ElementMeans item arg ↔ ∃ value, ValueMeans item value ∧ (.positional, value) = arg := by
  constructor
  · intro hmeans
    cases hmeans with
    | keyed hmembers _ _ =>
      refine absurd ?_ hkey
      exact (hmembers.map Prod.fst).mem_iff.2 List.mem_cons_self
    | positional _ hvalue => exact ⟨_, hvalue, rfl⟩
  · rintro ⟨value, hvalue, rfl⟩
    exact .positional hkey hvalue

/-- An element that has no key of its own is read as a value. -/
theorem readItem_iff_of_not_has
    (h : ∀ value, readValue item = .ok value ↔ ValueMeans item value) :
    readItem item = .ok arg ↔ ElementMeans item arg := by
  rw [readItem_of_not_has hkey, elementMeans_iff_of_not_has hkey, Traversal.map_eq_ok_iff]
  simp only [h]

end Element

/-! ### Collections, once their parts are known -/

theorem readItems_iff_of_mem {items : List Json} {args : Arguments}
    (h : ∀ item ∈ items, ∀ arg, readItem item = .ok arg ↔ ElementMeans item arg) :
    readItems items = .ok args ↔ List.Forall₂ ElementMeans items args := by
  rw [readItems_eq_mapM]
  exact Traversal.mapM_eq_ok_iff_of_mem h

section Members

variable {members : List (String × Json)}
  (h : ∀ member ∈ members, ∀ value, readValue member.2 = .ok value ↔ ValueMeans member.2 value)
include h

theorem readMembers_iff_of_mem {args : Arguments} :
    readMembers members = .ok args ↔ List.Forall₂ MemberMeans members args := by
  rw [readMembers_eq_mapM]
  refine Traversal.mapM_eq_ok_iff_of_mem ?_
  rintro ⟨name, v⟩ hmember arg
  rw [Traversal.map_eq_ok_iff]
  constructor
  · rintro ⟨value, hvalue, rfl⟩
    exact .named name ((h _ hmember value).1 hvalue)
  · rintro ⟨_, hvalue⟩
    exact ⟨_, (h _ hmember _).2 hvalue, rfl⟩

theorem readObject_iff_of_mem {value : ArgumentValue} :
    readObject members = .ok value ↔ ValueMeans (.object members) value := by
  rw [readObject_eq_ok_iff]
  constructor
  · rintro (⟨inner, a, rfl, ha, rfl⟩ | ⟨v, rfl, rfl⟩ | ⟨hextract, hliteral, args, hargs, rfl⟩)
    · exact .extraction (readAccessor_eq_ok_iff.1 ha)
    · exact .data v
    · exact .named hextract hliteral ((readMembers_iff_of_mem h).1 hargs)
  · intro hmeans
    generalize hv : Json.object members = v at hmeans
    cases hmeans with
    | scalar hscalar =>
      subst hv
      exact hscalar.elim
    | extraction hinner =>
      exact .inl ⟨_, _, Json.object.inj hv, readAccessor_eq_ok_iff.2 hinner, rfl⟩
    | data v => exact .inr (.inl ⟨v, Json.object.inj hv, rfl⟩)
    | named hextract hliteral hmembers =>
      obtain rfl := Json.object.inj hv
      exact .inr (.inr ⟨hextract, hliteral, _, (readMembers_iff_of_mem h).2 hmembers, rfl⟩)
    | listed hitems => cases hv

theorem readKeyed_iff_of_mem {arg : ArgumentKey × ArgumentValue}
    (hkey : (Json.object members).Has keyMarker) :
    readKeyed members = .ok arg ↔ ElementMeans (.object members) arg := by
  have hmem {k v : Json} (hmembers : members.Perm [(keyMarker, k), (valueMarker, v)]) :
      (valueMarker, v) ∈ members :=
    hmembers.mem_iff.2 (List.mem_cons_of_mem _ List.mem_cons_self)
  rw [readKeyed_eq_ok_iff]
  constructor
  · rintro ⟨k, v, hmembers, hk, hv⟩
    exact .keyed hmembers (readKey_iff_keyMeans.1 hk) ((h _ (hmem hmembers) _).1 hv)
  · rintro (⟨hmembers, hk, hv⟩ | ⟨hnone, -⟩)
    · exact ⟨_, _, hmembers, readKey_iff_keyMeans.2 hk, (h _ (hmem hmembers) _).2 hv⟩
    · exact absurd hkey hnone

end Members

/-! ### Documents -/

/-- Values and array elements are read as what they stand for. -/
theorem read_iff_means (v : Json) :
    (∀ value, readValue v = .ok value ↔ ValueMeans v value) ∧
      ∀ arg, readItem v = .ok arg ↔ ElementMeans v arg := by
  induction v with
  | scalar v hscalar =>
    have hkey : ¬ v.Has keyMarker := by cases v <;> first | exact id | exact hscalar.elim
    have hvalue (value : ArgumentValue) : readValue v = .ok value ↔ ValueMeans v value := by
      rw [readValue_of_isScalar hscalar]
      constructor
      · rintro ⟨⟩
        exact .scalar hscalar
      · rintro (_ | _ | _ | _ | _)
        · rfl
        all_goals exact hscalar.elim
    exact ⟨hvalue, fun _ => readItem_iff_of_not_has hkey hvalue⟩
  | array items ih =>
    have hvalue (value : ArgumentValue) :
        readValue (.array items) = .ok value ↔ ValueMeans (.array items) value := by
      rw [readValue, Traversal.map_eq_ok_iff]
      simp only [readItems_iff_of_mem fun item hitem => (ih item hitem).2]
      constructor
      · rintro ⟨args, hargs, rfl⟩
        exact .listed hargs
      · rintro (hscalar | _ | _ | _ | hitems)
        · exact hscalar.elim
        · exact ⟨_, hitems, rfl⟩
    exact ⟨hvalue, fun _ => readItem_iff_of_not_has id hvalue⟩
  | object members ih =>
    have hmembers : ∀ member ∈ members, ∀ value,
        readValue member.2 = .ok value ↔ ValueMeans member.2 value :=
      fun member hmember => (ih member hmember).1
    have hvalue (value : ArgumentValue) :
        readValue (.object members) = .ok value ↔ ValueMeans (.object members) value := by
      rw [readValue, readObject_iff_of_mem hmembers]
    refine ⟨hvalue, ?_⟩
    by_cases hkey : (Json.object members).Has keyMarker
    · intro arg
      rw [readItem_of_has hkey, readKeyed_iff_of_mem hmembers hkey]
    · exact fun _ => readItem_iff_of_not_has hkey hvalue

theorem read_eq_ok_iff {document : Json} {args : Arguments} :
    read document = .ok args ↔ ListMeans document args := by
  cases document with
  | null =>
    constructor
    · rintro ⟨⟩
      exact .null
    · rintro ⟨⟩
      rfl
  | array items =>
    rw [read, readItems_iff_of_mem fun item _ => (read_iff_means item).2]
    constructor
    · exact .listed
    · rintro (_ | _ | hitems)
      exact hitems
  | object members =>
    rw [read, readMembers_iff_of_mem fun member _ => (read_iff_means member.2).1]
    constructor
    · exact .named
    · rintro (_ | hmembers | _)
      exact hmembers
  | _ =>
    constructor
    · rintro ⟨⟩
    · rintro ⟨⟩

/-- The documents that a document of an argument list falls into, one for each argument. -/
def parts : Json → List Json
  | .object members => members.map fun member => .object [member]
  | .array items => items.map fun item => .array [item]
  | _ => []

theorem read_parts {document : Json} {args : Arguments} (h : read document = .ok args) :
    List.Forall₂ (fun part arg => read part = .ok [arg]) (parts document) args := by
  cases document with
  | null =>
    obtain rfl := Except.ok.inj h
    exact .nil
  | array items =>
    rw [read, readItems_eq_mapM, Traversal.mapM_eq_ok_iff] at h
    refine List.forall₂_map_left_iff.2 (h.imp fun item arg harg => ?_)
    rw [read, readItems_eq_mapM, Traversal.mapM_eq_ok_iff]
    exact .cons harg .nil
  | object members =>
    rw [read, readMembers_eq_mapM, Traversal.mapM_eq_ok_iff] at h
    refine List.forall₂_map_left_iff.2 (h.imp fun member arg harg => ?_)
    rw [read, readMembers_eq_mapM, Traversal.mapM_eq_ok_iff]
    exact .cons harg .nil
  | _ => cases h

/-- The documents of the grammar, and no others, configure an argument list. It is the list that the
document stands for, with one argument for each part of the document, in order and as that part
alone would give it; any other document is refused by one message of its own, and no origin is known
yet. -/
theorem ofJson_accepts (document : Json) :
    ((∃ args, ofJson document = .ok args) ↔ ListForm document) ∧
    (∀ args, ofJson document = .ok args ↔ ListMeans document args) ∧
      match ofJson document with
      | .ok args => List.Forall₂ (fun part arg => ofJson part = .ok [arg]) (parts document) args
      | .error failure =>
        failure.kind = .configuration ∧ failure.origin? = none ∧
          ∃ message, failure.messages = [message] := by
  refine ⟨?_, fun args => ofJson_eq_ok_iff.trans read_eq_ok_iff, ?_⟩
  · simp only [ofJson_eq_ok_iff]
    exact exists_readList_iff document
  · cases h : ofJson document with
    | ok args =>
      refine (read_parts (ofJson_eq_ok_iff.1 h)).imp fun part arg hpart => ?_
      exact ofJson_eq_ok_iff.2 hpart
    | error failure =>
      obtain ⟨fault, -, rfl⟩ := Traversal.mapError_eq_error_iff.1 h
      exact ⟨rfl, rfl, fault.message, rfl⟩

end Arguments

end Gleaner
