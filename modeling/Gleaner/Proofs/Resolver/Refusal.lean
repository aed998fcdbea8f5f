import Gleaner.Proofs.Traversal
import Gleaner.Resolver

/-!
# What resolving fails with

Whatever goes wrong while an accessor is resolved, be it a missing key, a wrong type, a fault of the
host or the limit, the failure is an extraction: no other kind leaves the resolver, and none comes
wrapped in a stage.
-/

namespace Gleaner.Resolver

variable {r : Resolver} {context : Context} {failure : Failure}

theorem kind_of_invokeOnce {segment method : String} {subject : Subject}
    (h : r.invokeOnce segment method subject = .error failure) : failure.kind = .extraction := by
  cases subject with
  | object o =>
    rw [invokeOnce] at h
    split at h
    · cases h
    · cases h
      rfl
    · cases h
      rfl
  | _ =>
    cases h
    rfl

theorem kind_of_invoke {segment method : String} {subject : Subject}
    (h : r.invoke segment method subject = .error failure) : failure.kind = .extraction := by
  cases subject with
  | sequence items =>
    obtain ⟨item, -, hitem⟩ := Traversal.exists_of_mapM_error (Traversal.map_eq_error_iff.1 h)
    exact kind_of_invokeOnce hitem
  | map entries =>
    obtain ⟨entry, -, hentry⟩ := Traversal.exists_of_mapM_error (Traversal.map_eq_error_iff.1 h)
    exact kind_of_invokeOnce (Traversal.map_eq_error_iff.1 hentry)
  | _ =>
    rw [invoke] at h
    · exact kind_of_invokeOnce h
    all_goals exact nofun

theorem kind_of_lookup {name : String} {subject : Subject}
    (h : r.lookup name subject = .error failure) : failure.kind = .extraction := by
  cases subject with
  | map entries =>
    rw [lookup] at h
    split at h
    · cases h
    · cases h
      rfl
  | sequence items =>
    rw [lookup] at h
    split at h
    · cases h
    · cases h
      rfl
  | object o =>
    rw [lookup] at h
    split at h
    · cases h
    · split at h
      · cases h
      · cases h
        rfl
      · cases h
        rfl
  | _ =>
    cases h
    rfl

theorem kind_of_resolveSegment {budget : Nat} {subject : Subject} {segment : String}
    (h : r.resolveSegment context budget subject segment = .error failure) :
    failure.kind = .extraction := by
  fun_induction resolveSegment r context budget subject segment with
  | case1 budget subject segment entry rest hscope hnone =>
    cases h
    rfl
  | case2 budget subject segment entry rest hscope found hfound hblank => cases h
  | case3 subject segment entry rest hscope found hfound hblank =>
    cases h
    rfl
  | case4 subject segment entry rest hscope found hfound hblank budget ih => exact ih h
  | case5 budget subject segment method hcall => exact kind_of_invoke h
  | case6 budget subject segment name hlookup => exact kind_of_lookup h

theorem kind_of_resolveChain {budget : Nat} {path : String} {subject : Subject}
    (h : r.resolveChain context budget path subject = .error failure) :
    failure.kind = .extraction := by
  obtain ⟨value, segment, -, hsegment⟩ := Traversal.exists_of_foldlM_error h
  exact kind_of_resolveSegment hsegment

theorem kind_of_resolveAccessor {budget : Nat} {accessor : Accessor} {subject : Subject}
    (h : r.resolveAccessor context subject budget accessor = .error failure) :
    failure.kind = .extraction := by
  fun_induction resolveAccessor r context subject budget accessor with
  | case1 budget text => exact kind_of_resolveChain h
  | case2 inner =>
    cases h
    rfl
  | case3 budget inner other hinner ih =>
    cases h
    exact ih hinner
  | case4 budget inner hinner ih => cases h
  | case5 budget inner path hinner ih => exact kind_of_resolveChain h
  | case6 budget inner other hinner hnull hstring ih =>
    cases h
    rfl

theorem kind_of_resolve {subject : Subject} {accessor : Accessor}
    (h : r.resolve subject accessor context = .error failure) : failure.kind = .extraction :=
  kind_of_resolveAccessor h

end Gleaner.Resolver
