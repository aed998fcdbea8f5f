import Gleaner.Proofs.Resolver.Isolation
import Gleaner.Proofs.Traversal

/-!
# Calls on collections

A call on a collection is made on its elements, from the first to the last, and comes to a
collection of the same shape: a map keeps its keys, and both kinds keep their order. It succeeds
only where every element is an object whose method succeeds, and otherwise fails at the first
element that is not.

For most elements that failure is the one of the same call on the element alone. An element that is
a collection is the exception. Alone it would be called element by element, but as an element it is
not gone into: it is no object, and refused as such.
-/

namespace Gleaner

namespace Resolver

def callOn (r : Resolver) (context : Context) (method : String) (subject : Subject) :
    Except Failure Subject :=
  r.resolve subject (.path (method ++ "()")) context

/-- The subject is an object, and the method succeeds on it with a value. -/
def Returns (r : Resolver) (method : String) (subject value : Subject) : Prop :=
  ∃ o, subject = .object o ∧ r.host.call o method = some (.ok value)

/-- What a call fails with where it comes upon an element: what the call on the element alone fails
with, or a refusal if the element is a collection. -/
inductive FailsAt (r : Resolver) (context : Context) (method : String) : Subject → Failure → Prop
  | single {element : Subject} {failure : Failure} (hsingle : element.isCollection = false)
      (h : r.callOn context method element = .error failure) :
      FailsAt r context method element failure
  | collection {element : Subject} (hcollection : element.isCollection = true) :
      FailsAt r context method element (.extraction (method ++ "()") element.typeName
        ("cannot invoke '" ++ method ++ "()' on " ++ element.typeName))

/-- A call on collections of one kind is made on their elements. The subject of an element is its
`part`, and `put` is the element with what the method returns in place of that. -/
structure CallsEach {α : Type} (r : Resolver) (context : Context) (method : String)
    (collect : List α → Subject) (part : α → Subject) (put : α → Subject → α) : Prop where
  ok_iff (elements : List α) :
    (∃ value, r.callOn context method (collect elements) = .ok value) ↔
      ∀ element ∈ elements, ∃ value, r.Returns method (part element) value
  eq_ok_iff (elements : List α) (value : Subject) :
    r.callOn context method (collect elements) = .ok value ↔
      ∃ results, List.Forall₂ (fun element result =>
        ∃ x, r.Returns method (part element) x ∧ put element x = result) elements results ∧
          collect results = value
  eq_error_iff (elements : List α) (failure : Failure) :
    r.callOn context method (collect elements) = .error failure ↔
      ∃ before element after, elements = before ++ element :: after ∧
        (∀ earlier ∈ before, ∃ value, r.Returns method (part earlier) value) ∧
        r.FailsAt context method (part element) failure
  empty : r.callOn context method (collect []) = .ok (collect [])

variable {r : Resolver} {context : Context} {method : String}

/-! ### A call on one subject -/

theorem invokeOnce_eq_ok_iff {segment : String} {subject value : Subject} :
    r.invokeOnce segment method subject = .ok value ↔ r.Returns method subject value := by
  cases subject with
  | object o =>
    simp only [Returns, Subject.object.injEq, exists_eq_left']
    rw [invokeOnce]
    cases r.host.call o method with
    | none => simp
    | some result => cases result <;> simp
  | _ => simp [invokeOnce, Returns]

theorem invoke_of_not_isCollection {segment : String} {subject : Subject}
    (h : subject.isCollection = false) :
    r.invoke segment method subject = r.invokeOnce segment method subject := by
  cases subject with
  | sequence items => cases h
  | map entries => cases h
  | _ => rfl

theorem invokeOnce_of_isCollection {segment : String} {subject : Subject}
    (h : subject.isCollection = true) :
    r.invokeOnce segment method subject = .error (.extraction segment subject.typeName
      ("cannot invoke '" ++ method ++ "()' on " ++ subject.typeName)) := by
  cases subject with
  | sequence items => rfl
  | map entries => rfl
  | _ => cases h

section Call

variable (hdot : '.' ∉ method.toList) (hscope : ¬ [':', ':'] <:+: method.toList)
include hdot hscope

theorem callOn_eq_invoke (subject : Subject) :
    r.callOn context method subject = r.invoke (method ++ "()") method subject := by
  have hsegment : '.' ∉ (method ++ "()").toList := by
    simp [String.toList_append, hdot]
  have hblank : ¬ Text.isBlank (method ++ "()") = true := by
    have hparenthesis : Text.isSpace '(' = false := by decide
    simp [Text.isBlank, String.toList_append, hparenthesis]
  rw [callOn, resolve, resolveAccessor_path, resolveChain_of_not_mem _ _ _ hsegment,
    if_neg hblank, resolveSegment_call (Segment.classify_call hscope)]

theorem invokeOnce_eq_error_iff {subject : Subject} {failure : Failure} :
    r.invokeOnce (method ++ "()") method subject = .error failure ↔
      r.FailsAt context method subject failure := by
  cases hcollection : subject.isCollection with
  | true =>
    rw [invokeOnce_of_isCollection hcollection]
    constructor
    · rintro ⟨⟩
      exact .collection hcollection
    · rintro (⟨hsingle, -⟩ | _)
      · rw [hcollection] at hsingle
        cases hsingle
      · rfl
  | false =>
    rw [← invoke_of_not_isCollection hcollection, ← callOn_eq_invoke hdot hscope]
    constructor
    · exact .single hcollection
    · rintro (⟨-, h⟩ | hcollection')
      · exact h
      · rw [hcollection] at hcollection'
        cases hcollection'

/-! ### A call on a collection -/

theorem callsEach_of_invoke {α : Type} {collect : List α → Subject} {part : α → Subject}
    {put : α → Subject → α}
    (h : ∀ elements, r.invoke (method ++ "()") method (collect elements) =
      (elements.mapM fun element =>
        (r.invokeOnce (method ++ "()") method (part element)).map (put element)).map collect) :
    CallsEach r context method collect part put := by
  have hcall (elements : List α) : r.callOn context method (collect elements) = _ :=
    (callOn_eq_invoke hdot hscope _).trans (h elements)
  have hok (element : α) :
      (∃ result, (r.invokeOnce (method ++ "()") method (part element)).map (put element) =
        .ok result) ↔ ∃ value, r.Returns method (part element) value := by
    rw [Traversal.exists_map_eq_ok_iff]
    simp only [invokeOnce_eq_ok_iff]
  constructor
  · intro elements
    rw [hcall, Traversal.exists_map_eq_ok_iff, Traversal.exists_mapM_eq_ok_iff]
    simp only [hok]
  · intro elements value
    rw [hcall, Traversal.map_eq_ok_iff]
    simp only [Traversal.mapM_eq_ok_iff, Traversal.map_eq_ok_iff, invokeOnce_eq_ok_iff]
  · intro elements failure
    rw [hcall, Traversal.map_eq_error_iff, Traversal.mapM_eq_error_iff]
    have hfails (element : α) : r.invokeOnce (method ++ "()") method (part element) =
        .error failure ↔ r.FailsAt context method (part element) failure :=
      invokeOnce_eq_error_iff hdot hscope
    simp only [hok, Traversal.map_eq_error_iff, hfails]
  · rw [hcall]
    rfl

theorem callsEach_map :
    CallsEach r context method .map (α := Key × Subject) Prod.snd fun entry value =>
      (entry.1, value) :=
  callsEach_of_invoke hdot hscope fun _ => rfl

theorem callsEach_sequence :
    CallsEach r context method .sequence id fun _ => id := by
  apply callsEach_of_invoke hdot hscope
  intro items
  simp only [invoke, Except.map_id, id]

theorem callOn_values (entries : List (Key × Subject)) :
    r.callOn context method (.sequence (entries.map Prod.snd)) =
      (r.callOn context method (.map entries)).map fun value => .sequence value.values := by
  have hvalues : (entries.map Prod.snd).mapM (r.invokeOnce (method ++ "()") method) =
      (entries.mapM fun entry => (r.invokeOnce (method ++ "()") method entry.2).map
        fun value => (entry.1, value)).map (List.map Prod.snd) := by
    rw [← Traversal.mapM_map]
    apply Traversal.mapM_eq_mapM
    rw [List.forall₂_map_left_iff, List.forall₂_same]
    intro entry _
    cases r.invokeOnce (method ++ "()") method entry.2 <;> rfl
  rw [callOn_eq_invoke hdot hscope, callOn_eq_invoke hdot hscope, invoke, invoke, hvalues]
  cases entries.mapM fun entry => (r.invokeOnce (method ++ "()") method entry.2).map
    fun value => (entry.1, value) <;> rfl

end Call

/-- A call maps over collections. -/
theorem call_maps_over_collections (r : Resolver) (context : Context) (method : String)
    (hdot : '.' ∉ method.toList) (hscope : ¬ [':', ':'] <:+: method.toList) :
    (∀ o value, r.callOn context method (.object o) = .ok value ↔
      r.host.call o method = some (.ok value)) ∧
    CallsEach r context method .map (α := Key × Subject) Prod.snd (fun entry value =>
      (entry.1, value)) ∧
    CallsEach r context method .sequence id (fun _ => id) ∧
    ∀ entries, r.callOn context method (.sequence (entries.map Prod.snd)) =
      (r.callOn context method (.map entries)).map fun value => .sequence value.values := by
  refine ⟨?_, callsEach_map hdot hscope, callsEach_sequence hdot hscope, callOn_values hdot hscope⟩
  intro o value
  rw [callOn_eq_invoke hdot hscope, invoke_of_not_isCollection rfl, invokeOnce_eq_ok_iff]
  simp only [Returns, Subject.object.injEq, exists_eq_left']

/-- The thermometers of two rooms. A list of thermometers in a third is not gone into, though on the
list alone the call succeeds. -/
theorem call_maps_over_collections_rooms :
    let indoors : HostObject := ⟨0, "Thermometer", .null⟩
    let outdoors : HostObject := ⟨1, "Thermometer", .null⟩
    let host : Host := { Host.silent with
      call := fun o _ => some (.ok (.string (if o = indoors then "warm" else "cold"))) }
    let r : Resolver := ⟨32, host⟩
    let rooms : List (Key × Subject) := [(.text "b", .object outdoors), (.int 7, .object indoors)]
    let cellar : Subject := .sequence [.object outdoors]
    '.' ∉ "read".toList ∧ ¬ [':', ':'] <:+: "read".toList ∧
    r.callOn .empty "read" (.map rooms) =
      .ok (.map [(.text "b", .string "cold"), (.int 7, .string "warm")]) ∧
    r.callOn .empty "read" (.sequence (rooms.map Prod.snd)) =
      .ok (.sequence [.string "cold", .string "warm"]) ∧
    r.callOn .empty "read" cellar = .ok (.sequence [.string "cold"]) ∧
    r.callOn .empty "read" (.map (rooms ++ [(.text "c", cellar)])) =
      .error (.extraction "read()" "sequence" "cannot invoke 'read()' on sequence") := by
  intro indoors outdoors host r rooms cellar
  have hdot : '.' ∉ "read".toList := by decide
  have hscope : ¬ [':', ':'] <:+: "read".toList := by decide
  obtain ⟨hobject, hmap, hsequence, hvalues⟩ :=
    call_maps_over_collections r .empty "read" hdot hscope
  have hcold : r.Returns "read" (.object outdoors) (.string "cold") := ⟨outdoors, rfl, rfl⟩
  have hwarm : r.Returns "read" (.object indoors) (.string "warm") := ⟨indoors, rfl, rfl⟩
  have hrooms : r.callOn .empty "read" (.map rooms) =
      .ok (.map [(.text "b", .string "cold"), (.int 7, .string "warm")]) :=
    (hmap.eq_ok_iff _ _).2 ⟨_, .cons ⟨_, hcold, rfl⟩ (.cons ⟨_, hwarm, rfl⟩ .nil), rfl⟩
  refine ⟨hdot, hscope, hrooms, ?_, ?_, ?_⟩
  · rw [hvalues, hrooms]
    rfl
  · exact (hsequence.eq_ok_iff _ _).2 ⟨_, .cons ⟨_, hcold, rfl⟩ .nil, rfl⟩
  · refine (hmap.eq_error_iff _ _).2 ⟨rooms, (.text "c", cellar), [], rfl, ?_, ?_⟩
    · exact List.forall_mem_cons.2 ⟨⟨_, hcold⟩, List.forall_mem_singleton.2 ⟨_, hwarm⟩⟩
    · exact .collection rfl

/-- A number in a sequence in a map: the call names the sequence in the map, and the number in the
sequence alone. -/
theorem call_on_nested_sequence :
    let r : Resolver := ⟨32, .silent⟩
    let nested : Subject := .sequence [.int 1]
    ∃ failure alone, r.callOn .empty "f" (.map [(.text "k", nested)]) = .error failure ∧
      r.callOn .empty "f" nested = .error alone ∧
      failure.messages = ["cannot invoke 'f()' on sequence"] ∧
      alone.messages = ["cannot invoke 'f()' on int"] ∧ failure ≠ alone := by
  intro r nested
  refine ⟨.extraction "f()" "sequence" "cannot invoke 'f()' on sequence",
    .extraction "f()" "int" "cannot invoke 'f()' on int", rfl, rfl, rfl, rfl, ?_⟩
  intro heq
  have hmessages := congrArg Failure.messages heq
  exact absurd hmessages (by decide)

end Resolver

end Gleaner
