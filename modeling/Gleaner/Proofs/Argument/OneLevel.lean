import Gleaner.Proofs.Argument.Configuration
import Gleaner.Proofs.Argument.Precedence

/-!
# Expansion goes one level deep

A list is expanded child by child. Key and value of a child may both be deferred: a deferred key has
to resolve to a text or an integer, a deferred value may resolve to anything. The first child with a
fault gives the failure, and its key is tried before its value. Without a fault the children become
the entries of a map, in which a repeated key stands where it stood first and holds what it held
last.

A child that is itself a list is shown as data. What shows it is described without a payload and
without a context, so it depends on neither, however deep the list goes.
-/

namespace Gleaner

def Key.subject : Key → Subject
  | int n => .int n
  | text s => .string s

namespace Arguments

/-! ### Effective entries

Every argument keeps its place and its value; one without a key gets its ordinal among those.
-/

theorem entriesFrom_eq_mapIdx (position : Nat) (args : Arguments) :
    entriesFrom position args = args.mapIdx fun index arg =>
      (effectiveKey (position + (positionals (args.take index)).length) arg.1, arg.2) := by
  induction args generalizing position with
  | nil => rfl
  | cons arg rest ih =>
    obtain ⟨key, value⟩ := arg
    have hcount : ∀ index, positionAfter position key + (positionals (rest.take index)).length =
        position + (positionals (((key, value) :: rest).take (index + 1))).length := by
      intro index
      cases key with
      | positional =>
        rw [List.take_succ_cons, positionals_cons, List.length_cons, positionAfter]
        omega
      | literal k =>
        have hkey : ArgumentKey.literal k ≠ .positional := by simp
        rw [List.take_succ_cons, positionals_cons_of_ne _ hkey, positionAfter]
      | extraction e =>
        have hkey : ArgumentKey.extraction e ≠ .positional := by simp
        rw [List.take_succ_cons, positionals_cons_of_ne _ hkey, positionAfter]
    rw [entriesFrom, ih, List.mapIdx_cons]
    simp only [hcount]
    rfl

theorem entries_eq_mapIdx (args : Arguments) :
    args.entries = args.mapIdx fun index arg =>
      (effectiveKey (positionals (args.take index)).length arg.1, arg.2) := by
  rw [entries, entriesFrom_eq_mapIdx]
  simp only [Nat.zero_add]

theorem exists_of_mem_entries {args : Arguments} {entry : EffectiveKey × ArgumentValue}
    (h : entry ∈ args.entries) : ∃ arg ∈ args, arg.2 = entry.2 := by
  rw [entries_eq_mapIdx, List.mem_mapIdx] at h
  obtain ⟨index, hindex, rfl⟩ := h
  exact ⟨args[index], List.getElem_mem hindex, rfl⟩

end Arguments

/-! ### Lists as data -/

namespace ArgumentValue

/-- A subject shows a value of which nothing is resolved: a literal as it is, an extraction as its
marker, a list as a map from the effective keys to what shows the values. -/
inductive Shows : ArgumentValue → Subject → Prop
  | literal (x : Subject) : Shows (.literal x) x
  | extraction (e : Extraction) :
      Shows (.extraction e) (.map [(.text extractMarker, .ofJson e.accessor.toJson)])
  | nested {items : Arguments} {children entries : List (Key × Subject)}
      (hkeys : children.map Prod.fst = items.entries.map fun entry => entry.1.toKey)
      (hvalues : ∀ (n : Nat) entry child, items.entries[n]? = some entry →
        children[n]? = some child → Shows entry.2 child.2)
      (hentries : Entries.Denotes children entries) : Shows (.nested items) (.map entries)

theorem unexpandedFrom_eq_map (position : Nat) (items : Arguments) :
    Arguments.unexpandedFrom position items =
      (Arguments.entriesFrom position items).map fun entry =>
        (entry.1.toKey, entry.2.unexpanded) := by
  induction items generalizing position with
  | nil => rw [Arguments.unexpandedFrom]; rfl
  | cons arg rest ih => rw [Arguments.unexpandedFrom, ih, Arguments.entriesFrom, List.map_cons]

theorem unexpanded_nested (items : Arguments) :
    (nested items).unexpanded = .map (Entries.ofPairs (items.entries.map fun entry =>
      (entry.1.toKey, entry.2.unexpanded))) := by
  rw [unexpanded, unexpandedFrom_eq_map]
  rfl

end ArgumentValue

namespace Arguments

variable {scope : Scope} {args : Arguments}

/-! ### What a child gives, and what is wrong with it -/

/-- The failure of a deferred key that resolves to what is no key. -/
def unusableKey (e : Extraction) (x : Subject) : Failure :=
  .configuration ("argument key " ++ e.display ++
    " must resolve to a string or integer, received " ++ x.typeName)

inductive KeyFault (scope : Scope) : EffectiveKey → Failure → Prop
  | unresolved {e : Extraction} {failure : Failure} (h : scope.extract e = .error failure) :
      KeyFault scope (.extraction e) failure
  | unusable {e : Extraction} {x : Subject} (h : scope.extract e = .ok x)
      (hx : ∀ key : Key, x ≠ key.subject) : KeyFault scope (.extraction e) (unusableKey e x)

inductive ValueFault (scope : Scope) : ArgumentValue → Failure → Prop
  | unresolved {e : Extraction} {failure : Failure} (h : scope.extract e = .error failure) :
      ValueFault scope (.extraction e) failure

/-- The fault of a child: that of its key, or else that of its value. -/
def ChildFault (scope : Scope) (child : EffectiveKey × ArgumentValue) (failure : Failure) : Prop :=
  KeyFault scope child.1 failure ∨
    (∀ other, ¬ KeyFault scope child.1 other) ∧ ValueFault scope child.2 failure

theorem keyOfSubject_eq_ok_iff {e : Extraction} {x : Subject} {key : Key} :
    keyOfSubject e x = .ok key ↔ x = key.subject := by
  cases key <;> cases x <;> simp [keyOfSubject, Key.subject]

theorem keyOfSubject_eq_error_iff {e : Extraction} {x : Subject} {failure : Failure} :
    keyOfSubject e x = .error failure ↔
      (∀ key : Key, x ≠ key.subject) ∧ failure = unusableKey e x := by
  constructor
  · intro h
    refine ⟨fun key hkey => ?_, ?_⟩
    · rw [keyOfSubject_eq_ok_iff.2 hkey] at h
      cases h
    · cases x <;> cases h <;> rfl
  · rintro ⟨hx, rfl⟩
    cases x with
    | int n => exact absurd rfl (hx (.int n))
    | string s => exact absurd rfl (hx (.text s))
    | _ => rfl

theorem expandKey_eq_error_iff {k : EffectiveKey} {failure : Failure} :
    expandKey scope k = .error failure ↔ KeyFault scope k failure := by
  cases k with
  | literal k => exact ⟨nofun, nofun⟩
  | extraction e =>
    rw [expandKey, Traversal.bind_eq_error_iff]
    simp only [keyOfSubject_eq_error_iff]
    constructor
    · rintro (h | ⟨x, h, hx, rfl⟩)
      · exact .unresolved h
      · exact .unusable h hx
    · intro h
      cases h with
      | unresolved h => exact .inl h
      | @unusable e x h hx => exact .inr ⟨x, h, hx, rfl⟩

theorem expandChild_eq_error_iff {value : ArgumentValue} {failure : Failure} :
    expandChild scope value = .error failure ↔ ValueFault scope value failure := by
  cases value with
  | literal x => exact ⟨nofun, nofun⟩
  | nested items => exact ⟨nofun, nofun⟩
  | extraction e =>
    rw [expandChild, Traversal.map_eq_error_iff]
    constructor
    · intro h
      exact .unresolved h
    · rintro ⟨h⟩
      exact h

/-! ### Children -/

def expandEntry (scope : Scope) (child : EffectiveKey × ArgumentValue) :
    Except Failure (Key × Subject) := do
  let key ← expandKey scope child.1
  let value ← expandChild scope child.2
  .ok (key, value.unexpanded)

theorem expandEntry_eq_error_iff {child : EffectiveKey × ArgumentValue} {failure : Failure} :
    expandEntry scope child = .error failure ↔ ChildFault scope child failure := by
  have hkey : (∃ key, expandKey scope child.1 = .ok key) ↔
      ∀ other, ¬ KeyFault scope child.1 other := by
    simp only [← expandKey_eq_error_iff]
    exact Traversal.exists_ok_iff
  rw [expandEntry, ChildFault, ← hkey]
  simp only [Traversal.bind_eq_error_iff, expandKey_eq_error_iff, expandChild_eq_error_iff,
    reduceCtorEq, and_false, exists_false, or_false]
  exact or_congr_right exists_and_right

/-- An expansion is one traversal of the children, whose results are written one after another. -/
theorem expand_eq : args.expand scope =
    (args.entries.mapM (expandEntry scope)).map fun children =>
      .map (Entries.ofPairs children) := by
  have hentry : expandEntry scope = fun child =>
      (do
        let key ← expandKey scope child.1
        let value ← expandChild scope child.2
        .ok (key, value)).map fun (key, value) => (key, ArgumentValue.unexpanded value) := by
    funext child
    rw [expandEntry]
    cases expandKey scope child.1 with
    | error failure => rfl
    | ok key => cases expandChild scope child.2 <;> rfl
  rw [hentry, Traversal.mapM_map, expand, expandChildren]
  cases args.entries.mapM fun child => (do
      let key ← expandKey scope child.1
      let value ← expandChild scope child.2
      .ok (key, value) : Except Failure (Key × ArgumentValue)) with
  | error failure => rfl
  | ok children =>
    have hmap := Entries.map_ofPairs ArgumentValue.unexpanded children
    exact congrArg (fun entries => Except.ok (Subject.map entries)) hmap

theorem expand_eq_error_iff {failure : Failure} : args.expand scope = .error failure ↔
    ∃ before child after, args.entries = before ++ child :: after ∧
      (∀ earlier ∈ before, ∀ other, ¬ ChildFault scope earlier other) ∧
      ChildFault scope child failure := by
  have hfine : ∀ earlier, (∃ result, expandEntry scope earlier = .ok result) ↔
      ∀ other, ¬ ChildFault scope earlier other := by
    intro earlier
    simp only [← expandEntry_eq_error_iff]
    exact Traversal.exists_ok_iff
  rw [expand_eq, Traversal.map_eq_error_iff, Traversal.mapM_eq_error_iff]
  simp only [hfine, expandEntry_eq_error_iff]

end Arguments

end Gleaner
