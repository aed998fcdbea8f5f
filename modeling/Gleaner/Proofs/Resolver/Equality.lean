import Gleaner.Proofs.Resolver.Limit
import Gleaner.Proofs.Subject.Equality
import Gleaner.Proofs.Traversal

/-!
# Resolving on equal subjects

Equal subjects are told apart by nothing but the signs of their zeros, and no path reads a sign. So
the same accessor leads on both of them to equal values or to one failure. That is shown of two runs
side by side: a lookup finds equal parts in equal collections, a call asks the same objects, and a
computed accessor yields the same path on both sides, since equal texts are the same text.

A run leaves its subject in two ways, for an entry of the context and for what the host answers.
What comes from there is the same on both sides, which is not enough where it holds a NaN. The
outcomes that matter are those that the host gives in the course of the run, and they are listed
here.
-/

namespace Gleaner

open Subject

/-! ### Parts of equal collections -/

section Parts

variable {α β : Type} {R : α → β → Prop}

theorem rel_getElem? {items : List α} {others : List β} (h : List.Forall₂ R items others)
    (i : Nat) : Option.Rel R items[i]? others[i]? := by
  induction h generalizing i with
  | nil => exact .none
  | cons hhead _ ih =>
    cases i with
    | zero => exact .some hhead
    | succ i => simpa using ih i

theorem rel_or {x x' : Option α} {y y' : Option β} (h : Option.Rel R x y)
    (h' : Option.Rel R x' y') : Option.Rel R (x.or x') (y.or y') := by
  cases h with
  | none => exact h'
  | some h => exact .some h

theorem Entries.rel_get? {entries : List (Key × α)} {others : List (Key × β)}
    (h : List.Forall₂ (fun entry other => entry.1 = other.1 ∧ R entry.2 other.2) entries others)
    (key : Key) : Option.Rel R (Entries.get? key entries) (Entries.get? key others) := by
  induction h with
  | nil => exact .none
  | @cons entry other _ _ hhead _ ih =>
    obtain ⟨k, v⟩ := entry
    obtain ⟨_, w⟩ := other
    obtain ⟨rfl, hvalue⟩ := hhead
    by_cases hk : k = key
    · simpa [Entries.get?, hk] using Option.Rel.some hvalue
    · simpa [Entries.get?, hk] using ih

end Parts

theorem Context.exists_mem_of_lookup? {context : Context} {name : String} {found : Subject}
    (h : context.lookup? name = some found) : ∃ key, (key, found) ∈ context.entries := by
  rw [lookup?, Option.or_eq_some_iff] at h
  obtain htext | ⟨-, hint⟩ := h
  · exact ⟨_, Entries.mem_of_get?_eq_some htext⟩
  · obtain ⟨key, -, hkey⟩ := Option.bind_eq_some_iff.1 hint
    exact ⟨key, Entries.mem_of_get?_eq_some hkey⟩

namespace Resolver

/-! ### What the host gives -/

def lookupOutcomes (r : Resolver) (name : String) : Subject → List Subject
  | .object o => (r.lookup name (.object o)).toOption.toList
  | _ => []

def segmentOutcomes (r : Resolver) (context : Context) : Nat → Subject → String → List Subject
  | budget, subject, segment =>
    match Segment.classify segment with
    | .scope entry rest =>
      match context.lookup? entry with
      | none => []
      | some found =>
        if Text.isBlank rest then []
        else
          match budget with
          | 0 => []
          | budget + 1 => segmentOutcomes r context budget found rest
    | .call method => (r.invoke segment method subject).toOption.toList
    | .lookup name => r.lookupOutcomes name subject

def chainOutcomes (r : Resolver) (context : Context) (budget : Nat) :
    List String → Subject → List Subject
  | [], _ => []
  | segment :: rest, subject =>
    r.segmentOutcomes context budget subject segment ++
      match r.resolveSegment context budget subject segment with
      | .ok value => chainOutcomes r context budget rest value
      | .error _ => []

def accessorOutcomes (r : Resolver) (context : Context) (subject : Subject) :
    Nat → Accessor → List Subject
  | budget, .path text => r.chainOutcomes context budget (Path.segments text) subject
  | 0, .computed _ => []
  | budget + 1, .computed inner =>
    accessorOutcomes r context subject budget inner ++
      match r.resolveAccessor context subject budget inner with
      | .ok (.string path) => r.chainOutcomes context budget (Path.segments path) subject
      | _ => []

/-- What objects of the host give while an accessor is resolved: the fields that are read of them
and the values that their methods return. -/
def outcomes (r : Resolver) (subject : Subject) (accessor : Accessor) (context : Context) :
    List Subject :=
  r.accessorOutcomes context subject r.maxDepth accessor

/-! ### Results side by side -/

/-- Equal values, or the same failure on both sides. -/
inductive Matches : Except Failure Subject → Except Failure Subject → Prop
  | ok {v w : Subject} (h : v == w) : Matches (.ok v) (.ok w)
  | error (failure : Failure) : Matches (.error failure) (.error failure)

theorem mem_toList_toOption {x : Except Failure Subject} {v : Subject} :
    v ∈ x.toOption.toList ↔ x = .ok v := by
  cases x <;> simp [Except.toOption, eq_comm]

theorem matches_self {x : Except Failure Subject}
    (h : ∀ v ∈ x.toOption.toList, v.Everywhere NotNaN) : Matches x x := by
  cases x with
  | error failure => exact .error failure
  | ok v => exact .ok (beq_self_iff.2 (h v (mem_toList_toOption.2 rfl)))

theorem Matches.bind {x y : Except Failure Subject} {f g : Subject → Except Failure Subject}
    (h : Matches x y) (hfg : ∀ v w, x = .ok v → v == w → Matches (f v) (g w)) :
    Matches (x >>= f) (y >>= g) := by
  cases h with
  | error failure => exact .error failure
  | ok h => exact hfg _ _ rfl h

variable {r : Resolver} {context : Context} {a b : Subject}

/-! ### Steps -/

theorem entries_agree {entries others : List (Key × Subject)}
    (h : List.Forall₂ (fun entry other => entry.1 = other.1 ∧ entry.2 == other.2) entries others)
    (name : String) :
    Option.Rel (fun v w => v == w) (named? name entries) (named? name others) := by
  rw [named?, named?]
  apply rel_or (Entries.rel_get? h (.text name))
  cases Key.readInt? name with
  | none => exact .none
  | some key => exact Entries.rel_get? h key

theorem matches_found (x y : Option Subject) (failure : Failure) :
    Option.Rel (fun v w => v == w) x y →
      Matches (match x with | some v => .ok v | none => .error failure)
        (match y with | some w => .ok w | none => .error failure) := by
  intro h
  cases h with
  | none => exact .error failure
  | some h => exact .ok h

theorem matches_lookup (hab : a == b) {name : String}
    (houtcomes : ∀ v ∈ r.lookupOutcomes name a, v.Everywhere NotNaN) :
    Matches (r.lookup name a) (r.lookup name b) := by
  cases equalParts_of_beq hab with
  | float => exact .error _
  | sequence hitems =>
    rw [lookup, lookup, hitems.length_eq]
    apply matches_found
    cases Numeral.readIndex? name with
    | none => exact .none
    | some i => exact rel_getElem? hitems i
  | map hentries =>
    rw [lookup, lookup]
    exact matches_found _ _ _ (entries_agree hentries name)
  | same =>
    cases a with
    | object o => exact matches_self houtcomes
    | sequence items => contradiction
    | map entries => contradiction
    | _ => exact .error _

theorem invokeOnce_eq_of_beq (hab : a == b) (segment method : String) :
    r.invokeOnce segment method a = r.invokeOnce segment method b := by
  cases equalParts_of_beq hab with
  | same => rfl
  | _ => rfl

/-- A call does not even notice the sign of a zero: nothing but objects answers it. -/
theorem invoke_eq_of_beq (hab : a == b) (segment method : String) :
    r.invoke segment method a = r.invoke segment method b := by
  cases equalParts_of_beq hab with
  | float => rfl
  | same => rfl
  | sequence hitems =>
    rw [invoke, invoke]
    apply congrArg (Except.map Subject.sequence)
    apply Traversal.mapM_eq_mapM
    exact hitems.imp fun item other hitem => invokeOnce_eq_of_beq hitem segment method
  | map hentries =>
    rw [invoke, invoke]
    apply congrArg (Except.map Subject.map)
    apply Traversal.mapM_eq_mapM
    apply hentries.imp
    intro entry other hentry
    show (r.invokeOnce segment method entry.2).map _ = (r.invokeOnce segment method other.2).map _
    rw [hentry.1, invokeOnce_eq_of_beq hentry.2]

/-! ### Runs -/

section Runs

variable (hcontext : ∀ entry ∈ context.entries, entry.2.Everywhere NotNaN)
include hcontext

theorem beq_self_of_lookup? {name : String} {found : Subject}
    (h : context.lookup? name = some found) : found == found := by
  obtain ⟨key, hmem⟩ := Context.exists_mem_of_lookup? h
  exact beq_self_iff.2 (hcontext _ hmem)

theorem matches_resolveSegment (hab : a == b) {budget : Nat} {segment : String}
    (houtcomes : ∀ v ∈ r.segmentOutcomes context budget a segment, v.Everywhere NotNaN) :
    Matches (r.resolveSegment context budget a segment)
      (r.resolveSegment context budget b segment) := by
  have htype := typeName_eq_of_beq hab
  fun_induction segmentOutcomes r context budget a segment generalizing b with
  | case1 budget a segment entry rest hscope hnone =>
    rw [resolveSegment_missing hscope hnone, resolveSegment_missing hscope hnone, htype]
    exact .error _
  | case2 budget a segment entry rest hscope found hfound hblank =>
    rw [resolveSegment_blank hscope hfound hblank, resolveSegment_blank hscope hfound hblank]
    exact .ok (beq_self_of_lookup? hcontext hfound)
  | case3 a segment entry rest hscope found hfound hblank =>
    rw [resolveSegment_zero hscope hfound hblank, resolveSegment_zero hscope hfound hblank,
      depthFailure, depthFailure, htype]
    exact .error _
  | case4 a segment entry rest hscope found hfound hblank budget ih =>
    rw [resolveSegment_succ hscope hfound hblank, resolveSegment_succ hscope hfound hblank]
    exact ih (beq_self_of_lookup? hcontext hfound) houtcomes rfl
  | case5 budget a segment method hcall =>
    rw [resolveSegment_call hcall, resolveSegment_call hcall, ← invoke_eq_of_beq hab]
    exact matches_self houtcomes
  | case6 budget a segment name hlookup =>
    rw [resolveSegment_lookup hlookup, resolveSegment_lookup hlookup]
    exact matches_lookup hab houtcomes

theorem matches_foldlM (hab : a == b) {budget : Nat} {segments : List String}
    (houtcomes : ∀ v ∈ r.chainOutcomes context budget segments a, v.Everywhere NotNaN) :
    Matches (segments.foldlM (r.resolveSegment context budget) a)
      (segments.foldlM (r.resolveSegment context budget) b) := by
  induction segments generalizing a b with
  | nil => exact .ok hab
  | cons segment rest ih =>
    rw [chainOutcomes, List.forall_mem_append] at houtcomes
    rw [List.foldlM_cons, List.foldlM_cons]
    apply (matches_resolveSegment hcontext hab houtcomes.1).bind
    intro v w hv hvw
    rw [hv] at houtcomes
    exact ih hvw houtcomes.2

/-- Equal values of the inner accessor are the same path, or are no path for the same reason. -/
theorem matches_follow (hab : a == b) {budget : Nat} {inner : Accessor} {v w : Subject}
    (hvw : v == w)
    (houtcomes : ∀ path, v = .string path →
      ∀ x ∈ r.chainOutcomes context budget (Path.segments path) a, x.Everywhere NotNaN) :
    Matches (r.follow context budget inner a v) (r.follow context budget inner b w) := by
  have htype := typeName_eq_of_beq hab
  cases equalParts_of_beq hvw with
  | same =>
    cases v with
    | null => exact .ok hab
    | string path => exact matches_foldlM hcontext hab (houtcomes path rfl)
    | _ =>
      simp only [follow, htype]
      exact .error _
  | _ =>
    simp only [follow, htype]
    exact .error _

theorem matches_resolveAccessor (hab : a == b) {budget : Nat} {accessor : Accessor}
    (houtcomes : ∀ v ∈ r.accessorOutcomes context a budget accessor, v.Everywhere NotNaN) :
    Matches (r.resolveAccessor context a budget accessor)
      (r.resolveAccessor context b budget accessor) := by
  induction accessor generalizing budget with
  | path text =>
    rw [resolveAccessor_path, resolveAccessor_path]
    rw [accessorOutcomes] at houtcomes
    exact matches_foldlM hcontext hab houtcomes
  | computed inner ih =>
    cases budget with
    | zero =>
      rw [resolveAccessor, resolveAccessor, depthFailure, depthFailure, typeName_eq_of_beq hab]
      exact .error _
    | succ budget =>
      rw [accessorOutcomes, List.forall_mem_append] at houtcomes
      rw [resolveAccessor_computed, resolveAccessor_computed]
      apply (ih houtcomes.1).bind
      intro v w hv hvw
      apply matches_follow hcontext hab hvw
      rintro path rfl
      rw [hv] at houtcomes
      exact houtcomes.2

end Runs

/-- Equality of subjects is symmetric and transitive, and subjects without a NaN are those that are
equal to themselves. Resolving respects it: the same accessor yields equal values on equal subjects,
or the same failure, as long as no NaN comes in from the context or the host. -/
theorem resolve_respects_equality (r : Resolver) :
    (∀ a b : Subject, a == b → b == a) ∧
    (∀ a b c : Subject, a == b → b == c → a == c) ∧
    (∀ a : Subject, a == a ↔ a.Everywhere NotNaN) ∧
    ∀ (a b : Subject) (accessor : Accessor) (context : Context), a == b →
      (∀ entry ∈ context.entries, entry.2.Everywhere NotNaN) →
      (∀ v ∈ r.outcomes a accessor context, v.Everywhere NotNaN) →
        Matches (r.resolve a accessor context) (r.resolve b accessor context) := by
  refine ⟨fun a b => beq_symm, fun a b c => beq_trans, fun a => beq_self_iff, ?_⟩
  intro a b accessor context hab hcontext houtcomes
  exact matches_resolveAccessor hcontext hab houtcomes

theorem resolve_respects_equality_zeros :
    let sensor : HostObject := ⟨0, "Sensor", .null⟩
    let host : Host := { Host.silent with call := fun _ _ => some (.ok (.string "level")) }
    let r : Resolver := ⟨1, host⟩
    let zero : Subject := .float ⟨0⟩
    let minusZero : Subject := .float ⟨0x8000000000000000⟩
    let a : Subject := .map [(.text "by", .object sensor), (.text "level", zero)]
    let b : Subject := .map [(.text "by", .object sensor), (.text "level", minusZero)]
    let accessor : Accessor := .computed (.path "by.quantity()")
    let context : Context := ⟨[(.text "zero", zero)]⟩
    a == b ∧ b == a ∧ a == a ∧ (∀ entry ∈ context.entries, entry.2.Everywhere NotNaN) ∧
      (∀ v ∈ r.outcomes a accessor context, v.Everywhere NotNaN) ∧
      Matches (r.resolve a accessor context) (r.resolve b accessor context) ∧
      r.resolve a accessor context = .ok zero ∧ r.resolve b accessor context = .ok minusZero := by
  intro sensor host r zero minusZero a b accessor context
  obtain ⟨hsymm, htrans, -, hresolve⟩ := resolve_respects_equality r
  have hab : a == b := by decide
  have hcontext : ∀ entry ∈ context.entries, entry.2.Everywhere NotNaN := by
    intro entry hentry
    obtain rfl := List.mem_singleton.1 hentry
    exact beq_self_iff.1 (by decide)
  have hgiven : r.outcomes a accessor context = [.string "level"] := by rfl
  have houtcomes : ∀ v ∈ r.outcomes a accessor context, v.Everywhere NotNaN := by
    rw [hgiven]
    intro v hv
    obtain rfl := List.mem_singleton.1 hv
    exact beq_self_iff.1 (by decide)
  exact ⟨hab, hsymm a b hab, htrans a b a hab (hsymm a b hab), hcontext, houtcomes,
    hresolve a b accessor context hab hcontext houtcomes, rfl, rfl⟩

end Resolver

end Gleaner
