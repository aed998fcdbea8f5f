import Gleaner.Argument.Reader
import Gleaner.Proofs.Entries
import Gleaner.Proofs.Json.Document
import Gleaner.Proofs.Number.Numeral
import Gleaner.Proofs.Traversal
import Mathlib.Data.List.Permutation

/-!
# The grammar of argument lists

Which documents configure an argument list is written down here as a grammar, one rule for each form
that a value, an array element, a key or an accessor may take. The markers bind in different places:
the key marker inside arrays only, the two markers of values everywhere but in the list itself. The
reader accepts the documents of the grammar and no others, so whatever it refuses breaks a rule.
-/

namespace Gleaner

/-- The documents of accessors. -/
inductive AccessorForm : Json → Prop
  | null : AccessorForm .null
  | text (path : String) : AccessorForm (.string path)
  | computed {inner : Json} (hinner : AccessorForm inner) :
      AccessorForm (.object [(extractMarker, inner)])

namespace Arguments

inductive KeyForm : Json → Prop
  | text (s : String) : KeyForm (.string s)
  | word {n : Int} (hlow : Int64.minValue.toInt ≤ n) (hhigh : n ≤ Int64.maxValue.toInt) :
      KeyForm (.int n)
  | extraction {inner : Json} (hinner : AccessorForm inner) :
      KeyForm (.object [(extractMarker, inner)])

mutual

inductive ValueForm : Json → Prop
  | scalar {v : Json} (hscalar : v.IsScalar) : ValueForm v
  | extraction {inner : Json} (hinner : AccessorForm inner) :
      ValueForm (.object [(extractMarker, inner)])
  | data (v : Json) : ValueForm (.object [(literalMarker, v)])
  | named {members : List (String × Json)}
      (hextract : ¬ (Json.object members).Has extractMarker)
      (hliteral : ¬ (Json.object members).Has literalMarker)
      (hmembers : ∀ member ∈ members, ValueForm member.2) : ValueForm (.object members)
  | listed {items : List Json} (hitems : ∀ item ∈ items, ElementForm item) :
      ValueForm (.array items)

inductive ElementForm : Json → Prop
  | keyed {members : List (String × Json)} {key value : Json}
      (hmembers : members.Perm [(keyMarker, key), (valueMarker, value)]) (hkey : KeyForm key)
      (hvalue : ValueForm value) : ElementForm (.object members)
  | positional {v : Json} (hkey : ¬ v.Has keyMarker) (hvalue : ValueForm v) : ElementForm v

end

/-- The documents of argument lists. -/
inductive ListForm : Json → Prop
  | null : ListForm .null
  | named {members : List (String × Json)} (hmembers : ∀ member ∈ members, ValueForm member.2) :
      ListForm (.object members)
  | listed {items : List Json} (hitems : ∀ item ∈ items, ElementForm item) :
      ListForm (.array items)

end Arguments

/-! ### Markers -/

theorem Json.soleMember?_eq_some_iff {name : String} {members : List (String × Json)} {v : Json} :
    Json.soleMember? name members = some v ↔ members = [(name, v)] := by
  rw [Json.soleMember?.eq_def]
  split
  · simp
  · rename_i hne
    refine iff_of_false nofun fun h => hne _ _ h

/-! ### Accessors and keys -/

theorem exists_readAccessor_iff {v : Json} :
    (∃ a, Accessor.read v = .ok a) ↔ AccessorForm v := by
  fun_induction Accessor.read v with
  | case1 => exact iff_of_true ⟨_, rfl⟩ .null
  | case2 text => exact iff_of_true ⟨_, rfl⟩ (.text text)
  | case3 inner ih =>
    rw [Traversal.exists_map_eq_ok_iff, ih]
    constructor
    · exact .computed
    · rintro (_ | _ | hinner)
      exact hinner
  | case4 name inner hname =>
    refine iff_of_false nofun ?_
    rintro (_ | _ | _)
    exact hname rfl
  | case5 members hne =>
    refine iff_of_false nofun ?_
    rintro (_ | _ | _)
    exact hne _ _ rfl
  | case6 v hnull htext hsole hobject =>
    refine iff_of_false nofun ?_
    rintro (_ | path | _)
    · exact hnull rfl
    · exact htext path rfl
    · exact hobject _ rfl

namespace Arguments

/-- A collection that is a value is one of the two markers, plain members or an array. -/
theorem valueForm_object_iff {members : List (String × Json)} :
    ValueForm (.object members) ↔
      (∃ inner, members = [(extractMarker, inner)] ∧ AccessorForm inner) ∨
      (∃ v, members = [(literalMarker, v)]) ∨
      (¬ (Json.object members).Has extractMarker ∧ ¬ (Json.object members).Has literalMarker ∧
        ∀ member ∈ members, ValueForm member.2) := by
  constructor
  · intro h
    generalize hv : Json.object members = v at h
    cases h with
    | scalar hscalar =>
      subst hv
      exact hscalar.elim
    | extraction hinner => exact .inl ⟨_, Json.object.inj hv, hinner⟩
    | data v => exact .inr (.inl ⟨v, Json.object.inj hv⟩)
    | named hextract hliteral hmembers =>
      obtain rfl := Json.object.inj hv
      exact .inr (.inr ⟨hextract, hliteral, hmembers⟩)
    | listed hitems => cases hv
  · rintro (⟨inner, rfl, hinner⟩ | ⟨v, rfl⟩ | ⟨hextract, hliteral, hmembers⟩)
    · exact .extraction hinner
    · exact .data v
    · exact .named hextract hliteral hmembers

theorem valueForm_array_iff {items : List Json} :
    ValueForm (.array items) ↔ ∀ item ∈ items, ElementForm item := by
  constructor
  · rintro (hscalar | _ | _ | _ | hitems)
    · exact hscalar.elim
    · exact hitems
  · exact .listed

theorem elementForm_iff_of_not_has {v : Json} (hkey : ¬ v.Has keyMarker) :
    ElementForm v ↔ ValueForm v := by
  constructor
  · intro h
    cases h with
    | keyed hmembers _ _ =>
      refine absurd ?_ hkey
      exact (hmembers.map Prod.fst).mem_iff.2 List.mem_cons_self
    | positional _ hvalue => exact hvalue
  · exact .positional hkey

theorem elementForm_object_iff_of_has {members : List (String × Json)}
    (hkey : (Json.object members).Has keyMarker) :
    ElementForm (.object members) ↔
      ∃ key value, members.Perm [(keyMarker, key), (valueMarker, value)] ∧ KeyForm key ∧
        ValueForm value := by
  constructor
  · rintro (⟨hmembers, hk, hvalue⟩ | ⟨hnone, -⟩)
    · exact ⟨_, _, hmembers, hk, hvalue⟩
    · exact absurd hkey hnone
  · rintro ⟨key, value, hmembers, hk, hvalue⟩
    exact .keyed hmembers hk hvalue

/-! ### Reading values -/

theorem readValue_of_isScalar {v : Json} (h : v.IsScalar) :
    readValue v = .ok (.literal (.ofJson v)) := by
  cases v with
  | array items => exact h.elim
  | object members => exact h.elim
  | _ => rw [readValue] <;> (intros; contradiction)

theorem readObject_extraction (inner : Json) :
    readObject [(extractMarker, inner)] = (Accessor.read inner).map fun a => .extraction ⟨a⟩ := by
  rw [readObject, Json.soleMember?_eq_some_iff.2 rfl]

theorem readObject_data (v : Json) :
    readObject [(literalMarker, v)] = .ok (.literal (.ofJson v)) := by
  have hmarkers : literalMarker ≠ extractMarker := by decide
  have hother : Json.soleMember? extractMarker [(literalMarker, v)] = none := by
    rw [Json.soleMember?, if_neg hmarkers]
  rw [readObject, hother, Json.soleMember?_eq_some_iff.2 rfl]

theorem soleMember?_eq_none_of_not_has {name : String} {members : List (String × Json)}
    (h : ¬ (Json.object members).Has name) : Json.soleMember? name members = none := by
  rw [Option.eq_none_iff_forall_ne_some]
  intro v hsole
  obtain rfl := Json.soleMember?_eq_some_iff.1 hsole
  exact h List.mem_cons_self

theorem readObject_named {members : List (String × Json)}
    (hextract : ¬ (Json.object members).Has extractMarker)
    (hliteral : ¬ (Json.object members).Has literalMarker) :
    readObject members = (readMembers members).map .nested := by
  have hnone : ¬ (Entries.contains extractMarker members ||
      Entries.contains literalMarker members) = true := by
    rw [Bool.or_eq_true, Entries.contains_iff, Entries.contains_iff]
    exact not_or.2 ⟨hextract, hliteral⟩
  rw [readObject, soleMember?_eq_none_of_not_has hextract, soleMember?_eq_none_of_not_has hliteral]
  exact if_neg hnone

theorem readObject_mixed {members : List (String × Json)}
    (hextract : ∀ inner, members ≠ [(extractMarker, inner)])
    (hliteral : ∀ v, members ≠ [(literalMarker, v)])
    (hmarker : (Json.object members).Has extractMarker ∨ (Json.object members).Has literalMarker) :
    readObject members = .error .mixedMarkers := by
  have hnone {name : String} (h : ∀ v, members ≠ [(name, v)]) :
      Json.soleMember? name members = none :=
    Option.eq_none_iff_forall_ne_some.2 fun v hv => h v (Json.soleMember?_eq_some_iff.1 hv)
  have hsome : (Entries.contains extractMarker members ||
      Entries.contains literalMarker members) = true := by
    rw [Bool.or_eq_true, Entries.contains_iff, Entries.contains_iff]
    exact hmarker
  rw [readObject, hnone hextract, hnone hliteral]
  exact if_pos hsome

theorem readMembers_eq_mapM (members : List (String × Json)) :
    readMembers members = members.mapM fun member =>
      (readValue member.2).map fun value => (.literal (.text member.1), value) := by
  induction members with
  | nil => rw [readMembers]; rfl
  | cons member rest ih =>
    obtain ⟨k, v⟩ := member
    rw [readMembers, ih, List.mapM_cons]
    cases readValue v <;> rfl

theorem readItems_eq_mapM (items : List Json) : readItems items = items.mapM readItem := by
  induction items with
  | nil => rw [readItems]; rfl
  | cons item rest ih => rw [readItems, ih, List.mapM_cons]; rfl

theorem exists_readMembers_iff {members : List (String × Json)} :
    (∃ args, readMembers members = .ok args) ↔
      ∀ member ∈ members, ∃ value, readValue member.2 = .ok value := by
  simp only [readMembers_eq_mapM, Traversal.exists_mapM_eq_ok_iff, Traversal.exists_map_eq_ok_iff]

theorem exists_readItems_iff {items : List Json} :
    (∃ args, readItems items = .ok args) ↔ ∀ item ∈ items, ∃ arg, readItem item = .ok arg := by
  simp only [readItems_eq_mapM, Traversal.exists_mapM_eq_ok_iff]

/-- An object is read as a value if it has one of three forms, and as that form has it. -/
theorem readObject_eq_ok_iff {members : List (String × Json)} {value : ArgumentValue} :
    readObject members = .ok value ↔
      (∃ inner a, members = [(extractMarker, inner)] ∧ Accessor.read inner = .ok a ∧
        value = .extraction ⟨a⟩) ∨
      (∃ v, members = [(literalMarker, v)] ∧ value = .literal (.ofJson v)) ∨
      (¬ (Json.object members).Has extractMarker ∧ ¬ (Json.object members).Has literalMarker ∧
        ∃ args, readMembers members = .ok args ∧ value = .nested args) := by
  constructor
  · intro hvalue
    by_cases hextract : ∃ inner, members = [(extractMarker, inner)]
    · obtain ⟨inner, rfl⟩ := hextract
      rw [readObject_extraction, Traversal.map_eq_ok_iff] at hvalue
      obtain ⟨a, ha, rfl⟩ := hvalue
      exact .inl ⟨inner, a, rfl, ha, rfl⟩
    by_cases hliteral : ∃ v, members = [(literalMarker, v)]
    · obtain ⟨v, rfl⟩ := hliteral
      rw [readObject_data] at hvalue
      exact .inr (.inl ⟨v, rfl, (Except.ok.inj hvalue).symm⟩)
    by_cases hmarker :
        (Json.object members).Has extractMarker ∨ (Json.object members).Has literalMarker
    · rw [readObject_mixed (not_exists.1 hextract) (not_exists.1 hliteral) hmarker] at hvalue
      cases hvalue
    · obtain ⟨hnoextract, hnoliteral⟩ := not_or.1 hmarker
      rw [readObject_named hnoextract hnoliteral, Traversal.map_eq_ok_iff] at hvalue
      obtain ⟨args, hargs, rfl⟩ := hvalue
      exact .inr (.inr ⟨hnoextract, hnoliteral, args, hargs, rfl⟩)
  · rintro (⟨inner, a, rfl, ha, rfl⟩ | ⟨v, rfl, rfl⟩ | ⟨hextract, hliteral, args, hargs, rfl⟩)
    · rw [readObject_extraction, ha]
      rfl
    · exact readObject_data v
    · rw [readObject_named hextract hliteral, hargs]
      rfl

theorem exists_readObject_iff {members : List (String × Json)} :
    (∃ value, readObject members = .ok value) ↔
      (∃ inner, members = [(extractMarker, inner)] ∧ AccessorForm inner) ∨
      (∃ v, members = [(literalMarker, v)]) ∨
      (¬ (Json.object members).Has extractMarker ∧ ¬ (Json.object members).Has literalMarker ∧
        ∀ member ∈ members, ∃ value, readValue member.2 = .ok value) := by
  simp only [readObject_eq_ok_iff]
  constructor
  · rintro ⟨-, ⟨inner, a, rfl, ha, -⟩ | ⟨v, rfl, -⟩ | ⟨hextract, hliteral, args, hargs, -⟩⟩
    · exact .inl ⟨inner, rfl, exists_readAccessor_iff.1 ⟨a, ha⟩⟩
    · exact .inr (.inl ⟨v, rfl⟩)
    · exact .inr (.inr ⟨hextract, hliteral, exists_readMembers_iff.1 ⟨args, hargs⟩⟩)
  · rintro (⟨inner, rfl, hinner⟩ | ⟨v, rfl⟩ | ⟨hextract, hliteral, hmembers⟩)
    · obtain ⟨a, ha⟩ := exists_readAccessor_iff.2 hinner
      exact ⟨_, .inl ⟨inner, a, rfl, ha, rfl⟩⟩
    · exact ⟨_, .inr (.inl ⟨v, rfl, rfl⟩)⟩
    · obtain ⟨args, hargs⟩ := exists_readMembers_iff.2 hmembers
      exact ⟨_, .inr (.inr ⟨hextract, hliteral, args, hargs, rfl⟩)⟩

/-! ### Reading array elements -/

theorem readItem_of_not_has {item : Json} (h : ¬ item.Has keyMarker) :
    readItem item = (readValue item).map fun value => (.positional, value) := by
  cases item with
  | object members =>
    have hnone : ¬ Entries.contains keyMarker members = true := fun hkey =>
      h (Entries.contains_iff.1 hkey)
    rw [readItem, if_neg hnone, readValue]
  | array items =>
    rw [readItem, readValue]
    cases readItems items <;> rfl
  | _ =>
    rw [readItem, readValue]
    · rfl
    all_goals
      intros
      contradiction

theorem readItem_of_has {members : List (String × Json)}
    (h : (Json.object members).Has keyMarker) :
    readItem (.object members) = readKeyed members := by
  rw [readItem, if_pos (Entries.contains_iff.2 h)]

/-- A key is a text, a word or an extraction. -/
theorem readKey_eq_ok_iff {v : Json} {key : ArgumentKey} :
    readKey v = .ok key ↔
      (∃ s, v = .string s ∧ key = .literal (.text s)) ∨
      (∃ n : Int64, v = .int n.toInt ∧ key = .literal (.int n)) ∨
      ∃ inner a, v = .object [(extractMarker, inner)] ∧ Accessor.read inner = .ok a ∧
        key = .extraction ⟨a⟩ := by
  constructor
  · intro hkey
    cases v with
    | string s =>
      rw [readKey] at hkey
      exact .inl ⟨s, rfl, (Except.ok.inj hkey).symm⟩
    | int n =>
      rw [readKey] at hkey
      split at hkey
      · rename_i hfits
        obtain rfl := Except.ok.inj hkey
        exact .inr (.inl ⟨.ofInt n, by rw [Numeral.toInt_ofInt_of_fitsWord hfits], rfl⟩)
      · cases hkey
    | object members =>
      rw [readKey] at hkey
      obtain ⟨value, hvalue, hkey⟩ := Traversal.bind_eq_ok_iff.1 hkey
      obtain ⟨inner, a, rfl, ha, rfl⟩ | ⟨v, -, rfl⟩ | ⟨-, -, args, -, rfl⟩ :=
        readObject_eq_ok_iff.1 hvalue
      · exact .inr (.inr ⟨inner, a, rfl, ha, (Except.ok.inj hkey).symm⟩)
      · cases hkey
      · cases hkey
    | _ =>
      rw [readKey] at hkey
      · cases hkey
      all_goals
        intros
        contradiction
  · rintro (⟨s, rfl, rfl⟩ | ⟨n, rfl, rfl⟩ | ⟨inner, a, rfl, ha, rfl⟩)
    · rw [readKey]
    · rw [readKey, if_pos (Numeral.fitsWord_toInt n), Int64.ofInt_toInt]
    · rw [readKey, readObject_extraction, ha]
      rfl

theorem exists_readKey_iff {v : Json} : (∃ key, readKey v = .ok key) ↔ KeyForm v := by
  simp only [readKey_eq_ok_iff]
  constructor
  · rintro ⟨-, ⟨s, rfl, -⟩ | ⟨n, rfl, -⟩ | ⟨inner, a, rfl, ha, -⟩⟩
    · exact .text s
    · exact .word n.minValue_le_toInt n.toInt_le
    · exact .extraction (exists_readAccessor_iff.1 ⟨a, ha⟩)
  · rintro (⟨s⟩ | ⟨hlow, hhigh⟩ | hinner)
    · exact ⟨_, .inl ⟨s, rfl, rfl⟩⟩
    · have hword := Numeral.toInt_ofInt_of_fitsWord (Numeral.fitsWord_iff.2 ⟨hlow, hhigh⟩)
      exact ⟨_, .inr (.inl ⟨_, congrArg Json.int hword.symm, rfl⟩)⟩
    · obtain ⟨a, ha⟩ := exists_readAccessor_iff.2 hinner
      exact ⟨_, .inr (.inr ⟨_, a, rfl, ha, rfl⟩)⟩

theorem readKeyed_of_perm {members : List (String × Json)} {key value : Json}
    (h : members.Perm [(keyMarker, key), (valueMarker, value)]) :
    readKeyed members =
      readKey key >>= fun k => readValue value >>= fun v => .ok (k, v) := by
  have hmarkers : valueMarker ≠ keyMarker := by decide
  obtain rfl | rfl := List.perm_pair.1 h
  · rw [readKeyed, if_pos ⟨rfl, rfl⟩]
  · rw [readKeyed, if_neg fun hboth => hmarkers hboth.1, if_pos ⟨rfl, rfl⟩]

theorem readKeyed_eq_ok_iff {members : List (String × Json)}
    {arg : ArgumentKey × ArgumentValue} :
    readKeyed members = .ok arg ↔
      ∃ key value, members.Perm [(keyMarker, key), (valueMarker, value)] ∧
        readKey key = .ok arg.1 ∧ readValue value = .ok arg.2 := by
  constructor
  · intro harg
    have hpair : ∃ key value, members.Perm [(keyMarker, key), (valueMarker, value)] := by
      rw [readKeyed.eq_def] at harg
      split at harg
      · rename_i k a l b
        split at harg
        · rename_i hboth
          obtain ⟨rfl, rfl⟩ := hboth
          exact ⟨a, b, .rfl⟩
        · split at harg
          · rename_i hboth
            obtain ⟨rfl, rfl⟩ := hboth
            exact ⟨b, a, .swap _ _ _⟩
          · cases harg
      · cases harg
    obtain ⟨key, value, hperm⟩ := hpair
    rw [readKeyed_of_perm hperm] at harg
    obtain ⟨k, hk, harg⟩ := Traversal.bind_eq_ok_iff.1 harg
    obtain ⟨v, hv, hpair⟩ := Traversal.bind_eq_ok_iff.1 harg
    obtain rfl := Except.ok.inj hpair
    exact ⟨key, value, hperm, hk, hv⟩
  · rintro ⟨key, value, hperm, hk, hv⟩
    rw [readKeyed_of_perm hperm, hk, hv]
    rfl

theorem exists_readKeyed_iff {members : List (String × Json)} :
    (∃ arg, readKeyed members = .ok arg) ↔
      ∃ key value, members.Perm [(keyMarker, key), (valueMarker, value)] ∧
        (∃ k, readKey key = .ok k) ∧ ∃ v, readValue value = .ok v := by
  simp only [readKeyed_eq_ok_iff]
  constructor
  · rintro ⟨arg, key, value, hperm, hk, hv⟩
    exact ⟨key, value, hperm, ⟨_, hk⟩, _, hv⟩
  · rintro ⟨key, value, hperm, ⟨k, hk⟩, v, hv⟩
    exact ⟨(k, v), key, value, hperm, hk, hv⟩

/-! ### The reader and the grammar -/

/-- Values and array elements are read as the grammar has them. The two go together: an element is a
value or has one, and an array holds elements. -/
theorem exists_read_iff (v : Json) :
    ((∃ value, readValue v = .ok value) ↔ ValueForm v) ∧
      ((∃ arg, readItem v = .ok arg) ↔ ElementForm v) := by
  induction v with
  | scalar v hscalar =>
    have hkey : ¬ v.Has keyMarker := by cases v <;> first | exact id | exact hscalar.elim
    rw [readItem_of_not_has hkey, elementForm_iff_of_not_has hkey,
      Traversal.exists_map_eq_ok_iff, and_self_iff]
    exact iff_of_true ⟨_, readValue_of_isScalar hscalar⟩ (.scalar hscalar)
  | array items ih =>
    rw [readItem_of_not_has id, elementForm_iff_of_not_has id, Traversal.exists_map_eq_ok_iff,
      and_self_iff, readValue, Traversal.exists_map_eq_ok_iff, exists_readItems_iff,
      valueForm_array_iff]
    exact forall₂_congr fun item hitem => (ih item hitem).2
  | object members ih =>
    have hvalues : (∀ member ∈ members, ∃ value, readValue member.2 = .ok value) ↔
        ∀ member ∈ members, ValueForm member.2 :=
      forall₂_congr fun member hmember => (ih member hmember).1
    have hvalue : (∃ value, readValue (.object members) = .ok value) ↔
        ValueForm (.object members) := by
      rw [readValue, exists_readObject_iff, valueForm_object_iff, hvalues]
    refine ⟨hvalue, ?_⟩
    by_cases hkey : (Json.object members).Has keyMarker
    · rw [readItem_of_has hkey, exists_readKeyed_iff, elementForm_object_iff_of_has hkey]
      refine exists₂_congr fun key value => and_congr_right fun hperm => ?_
      have hmem : (valueMarker, value) ∈ members :=
        hperm.mem_iff.2 (List.mem_cons_of_mem _ List.mem_cons_self)
      rw [exists_readKey_iff, (ih _ hmem).1]
    · rw [readItem_of_not_has hkey, elementForm_iff_of_not_has hkey,
        Traversal.exists_map_eq_ok_iff]
      exact hvalue

theorem exists_readList_iff (document : Json) :
    (∃ args, read document = .ok args) ↔ ListForm document := by
  cases document with
  | null => exact iff_of_true ⟨[], rfl⟩ .null
  | array items =>
    rw [read, exists_readItems_iff]
    constructor
    · intro h
      exact .listed fun item hitem => (exists_read_iff item).2.1 (h item hitem)
    · rintro (_ | _ | hitems)
      exact fun item hitem => (exists_read_iff item).2.2 (hitems item hitem)
  | object members =>
    rw [read, exists_readMembers_iff]
    constructor
    · intro h
      exact .named fun member hmember => (exists_read_iff member.2).1.1 (h member hmember)
    · rintro (_ | hmembers | _)
      exact fun member hmember => (exists_read_iff member.2).1.2 (hmembers member hmember)
  | _ => exact iff_of_false nofun nofun

theorem ofJson_eq_ok_iff {document : Json} {args : Arguments} :
    ofJson document = .ok args ↔ read document = .ok args :=
  Traversal.mapError_eq_ok_iff

end Arguments

end Gleaner
