import Gleaner.Proofs.Resolver.Limit

/-!
# What a resolution evaluates

A result does not say which paths and segments were evaluated on the way to it, or how deep. Here
the resolver is written with a record of them. It counts its depth up from nothing, where the
resolver counts down what is left of the limit, and so it meets the limit as a guard in two places:
before an accessor is looked at, and before what stands behind a scope is. Without the record it is
the resolver, and from the guards it follows that nothing is ever evaluated beyond the limit.
-/

namespace Gleaner

/-- The evaluation of a path or of one segment, with its depth. -/
inductive Evaluation where
  | path (depth : Nat) (text : String)
  | segment (depth : Nat) (text : String)
deriving DecidableEq

def Evaluation.depth : Evaluation → Nat
  | path depth _ => depth
  | segment depth _ => depth

/-- A result with the evaluations that were made for it, in order. -/
structure Traced (α : Type) where
  evaluations : List Evaluation
  result : Except Failure α

namespace Traced

variable {α β : Type}

def ofResult (result : Except Failure α) : Traced α :=
  ⟨[], result⟩

def record (evaluation : Evaluation) : Traced Unit :=
  ⟨[evaluation], .ok ()⟩

protected def bind (x : Traced α) (f : α → Traced β) : Traced β :=
  match x.result with
  | .ok value => ⟨x.evaluations ++ (f value).evaluations, (f value).result⟩
  | .error failure => ⟨x.evaluations, .error failure⟩

instance : Monad Traced where
  pure value := ofResult (.ok value)
  bind := Traced.bind

@[simp] theorem result_ofResult (result : Except Failure α) : (ofResult result).result = result :=
  rfl

@[simp] theorem result_pure (value : α) : (pure value : Traced α).result = .ok value :=
  rfl

@[simp] theorem result_bind (x : Traced α) (f : α → Traced β) :
    (x >>= f).result = x.result >>= fun value => (f value).result := by
  show (Traced.bind x f).result = _
  rw [Traced.bind]
  cases x.result <;> rfl

@[simp] theorem result_record_bind (evaluation : Evaluation) (f : Unit → Traced β) :
    (record evaluation >>= f).result = (f ()).result :=
  rfl

theorem result_foldlM (f : β → α → Traced β) (items : List α) (start : β) :
    (items.foldlM f start).result =
      items.foldlM (fun value item => (f value item).result) start := by
  induction items generalizing start with
  | nil => rfl
  | cons item rest ih =>
    rw [List.foldlM_cons, List.foldlM_cons, result_bind]
    simp only [ih]

/-- Nothing was evaluated deeper than the limit. -/
def Within (limit : Nat) (x : Traced α) : Prop :=
  ∀ evaluation ∈ x.evaluations, evaluation.depth ≤ limit

variable {limit : Nat}

theorem within_ofResult (result : Except Failure α) : (ofResult result).Within limit :=
  fun _ h => absurd h List.not_mem_nil

theorem within_record {evaluation : Evaluation} (h : evaluation.depth ≤ limit) :
    (record evaluation).Within limit := by
  intro other hother
  rw [List.mem_singleton.1 hother]
  exact h

theorem Within.bind {x : Traced α} {f : α → Traced β} (hx : x.Within limit)
    (hf : ∀ value, x.result = .ok value → (f value).Within limit) : (x >>= f).Within limit := by
  show (Traced.bind x f).Within limit
  rw [Traced.bind]
  cases hresult : x.result with
  | error failure => exact hx
  | ok value =>
    intro evaluation hmem
    obtain hmem | hmem := List.mem_append.1 hmem
    · exact hx evaluation hmem
    · exact hf value hresult evaluation hmem

theorem Within.foldlM {f : β → α → Traced β} (hf : ∀ value item, (f value item).Within limit)
    (items : List α) (start : β) : (items.foldlM f start).Within limit := by
  induction items generalizing start with
  | nil => exact within_ofResult _
  | cons item rest ih =>
    rw [List.foldlM_cons]
    exact (hf start item).bind fun value _ => ih value

end Traced

namespace Resolver

/-! ### The resolver with its record -/

def traceSegment (r : Resolver) (context : Context) (depth : Nat) (subject : Subject)
    (segment : String) : Traced Subject := do
  .record (.segment depth segment)
  match Segment.classify segment with
  | .scope entry rest =>
    match context.lookup? entry with
    | none =>
      .ofResult (.error (.extraction segment subject.typeName
        ("context entry '" ++ entry ++ "' not found")))
    | some found =>
      if Text.isBlank rest then pure found
      else if r.maxDepth < depth + 1 then .ofResult (.error (r.depthFailure segment subject))
      else r.traceSegment context (depth + 1) found rest
  | .call method => .ofResult (r.invoke segment method subject)
  | .lookup name => .ofResult (r.lookup name subject)
termination_by r.maxDepth - depth

def traceChain (r : Resolver) (context : Context) (depth : Nat) (path : String)
    (subject : Subject) : Traced Subject := do
  .record (.path depth path)
  (Path.segments path).foldlM (r.traceSegment context depth) subject

/-- Make of the value of the inner accessor what a computed accessor does, at the depth of both. -/
def traceFollow (r : Resolver) (context : Context) (depth : Nat) (inner : Accessor)
    (subject : Subject) : Subject → Traced Subject
  | .null => pure subject
  | .string path => r.traceChain context depth path subject
  | other => .ofResult (.error (.extraction (Accessor.computed inner).display subject.typeName
      ("computed accessor must yield string, received " ++ other.typeName)))

def traceAccessor (r : Resolver) (context : Context) (subject : Subject) (depth : Nat)
    (accessor : Accessor) : Traced Subject :=
  if r.maxDepth < depth then .ofResult (.error (r.depthFailure accessor.display subject))
  else
    match accessor with
    | .path text => r.traceChain context depth text subject
    | .computed inner =>
      r.traceAccessor context subject (depth + 1) inner >>=
        r.traceFollow context (depth + 1) inner subject

def trace (r : Resolver) (subject : Subject) (accessor : Accessor) (context : Context) :
    Traced Subject :=
  r.traceAccessor context subject 0 accessor

def tracePath (r : Resolver) (subject : Subject) (path : Option String) (context : Context) :
    Traced Subject :=
  r.traceChain context 0 (path.getD "") subject

variable {r : Resolver} {context : Context}

/-! ### Without the record -/

theorem traceSegment_result {budget depth : Nat} (hbudget : budget = r.maxDepth - depth)
    (subject : Subject) (segment : String) :
    (r.traceSegment context depth subject segment).result =
      r.resolveSegment context budget subject segment := by
  fun_induction resolveSegment r context budget subject segment generalizing depth with
  | case1 budget subject segment entry rest hscope hnone =>
    rw [traceSegment, hscope, Traced.result_record_bind]
    simp only [hnone, Traced.result_ofResult]
  | case2 budget subject segment entry rest hscope found hfound hblank =>
    rw [traceSegment, hscope, Traced.result_record_bind]
    simp only [hfound, if_pos hblank, Traced.result_pure]
  | case3 subject segment entry rest hscope found hfound hblank =>
    have hguard : r.maxDepth < depth + 1 := by omega
    rw [traceSegment, hscope, Traced.result_record_bind]
    simp only [hfound, if_neg hblank, if_pos hguard, Traced.result_ofResult]
  | case4 subject segment entry rest hscope found hfound hblank budget ih =>
    have hguard : ¬ r.maxDepth < depth + 1 := by omega
    rw [traceSegment, hscope, Traced.result_record_bind]
    simp only [hfound, if_neg hblank, if_neg hguard]
    exact ih (by omega)
  | case5 budget subject segment method hcall =>
    rw [traceSegment, hcall]
    rfl
  | case6 budget subject segment name hlookup =>
    rw [traceSegment, hlookup]
    rfl

theorem traceChain_result (depth : Nat) (path : String) (subject : Subject) :
    (r.traceChain context depth path subject).result =
      r.resolveChain context (r.maxDepth - depth) path subject := by
  rw [traceChain, Traced.result_record_bind, Traced.result_foldlM, resolveChain]
  simp only [traceSegment_result rfl]

theorem traceFollow_result (depth : Nat) (inner : Accessor) (subject value : Subject) :
    (r.traceFollow context depth inner subject value).result =
      r.follow context (r.maxDepth - depth) inner subject value := by
  cases value with
  | string path => exact traceChain_result depth path subject
  | _ => rfl

theorem traceAccessor_of_lt {depth : Nat} (h : r.maxDepth < depth) (accessor : Accessor)
    (subject : Subject) :
    r.traceAccessor context subject depth accessor =
      .ofResult (.error (r.depthFailure accessor.display subject)) := by
  cases accessor with
  | path text => rw [traceAccessor, if_pos h]
  | computed inner => rw [traceAccessor, if_pos h]

theorem traceAccessor_computed {depth : Nat} (h : depth ≤ r.maxDepth) (inner : Accessor)
    (subject : Subject) :
    r.traceAccessor context subject depth (.computed inner) =
      r.traceAccessor context subject (depth + 1) inner >>=
        r.traceFollow context (depth + 1) inner subject := by
  rw [traceAccessor, if_neg (Nat.not_lt.2 h)]

theorem traceAccessor_path {depth : Nat} (h : depth ≤ r.maxDepth) (text : String)
    (subject : Subject) :
    r.traceAccessor context subject depth (.path text) =
      r.traceChain context depth text subject := by
  rw [traceAccessor, if_neg (Nat.not_lt.2 h)]

theorem traceAccessor_result {depth : Nat} (hdepth : depth ≤ r.maxDepth) (accessor : Accessor)
    (subject : Subject) :
    (r.traceAccessor context subject depth accessor).result =
      r.resolveAccessor context subject (r.maxDepth - depth) accessor := by
  induction accessor generalizing depth with
  | path text =>
    rw [traceAccessor_path hdepth, resolveAccessor_path]
    exact traceChain_result depth text subject
  | computed inner ih =>
    rw [traceAccessor_computed hdepth, Traced.result_bind]
    obtain rfl | hlt := Nat.eq_or_lt_of_le hdepth
    · rw [traceAccessor_of_lt (Nat.lt_succ_self r.maxDepth), Nat.sub_self, resolveAccessor]
      rfl
    · have hbudget : r.maxDepth - depth = r.maxDepth - (depth + 1) + 1 := by omega
      rw [ih hlt, hbudget, resolveAccessor_computed]
      simp only [traceFollow_result]

/-- Without its record, a traced resolution is the resolution. -/
theorem trace_result (subject : Subject) (accessor : Accessor) :
    (r.trace subject accessor context).result = r.resolve subject accessor context :=
  traceAccessor_result (Nat.zero_le _) accessor subject

theorem tracePath_result (subject : Subject) (path : Option String) :
    (r.tracePath subject path context).result = r.resolvePath subject path context :=
  traceChain_result 0 _ subject

/-! ### Within the limit -/

theorem within_traceSegment {depth : Nat} (h : depth ≤ r.maxDepth) (subject : Subject)
    (segment : String) : (r.traceSegment context depth subject segment).Within r.maxDepth := by
  rw [traceSegment]
  refine (Traced.within_record h).bind fun _ _ => ?_
  split
  · split
    · exact Traced.within_ofResult _
    · split
      · exact Traced.within_ofResult _
      · split
        · exact Traced.within_ofResult _
        · rename_i hguard
          -- the guard has been passed, so the scope is no deeper than the limit either
          exact within_traceSegment (Nat.not_lt.1 hguard) _ _
  · exact Traced.within_ofResult _
  · exact Traced.within_ofResult _
termination_by r.maxDepth - depth

theorem within_traceChain {depth : Nat} (h : depth ≤ r.maxDepth) (path : String)
    (subject : Subject) : (r.traceChain context depth path subject).Within r.maxDepth :=
  (Traced.within_record h).bind fun _ _ => .foldlM (within_traceSegment h) _ subject

theorem within_traceFollow {depth : Nat} (h : depth ≤ r.maxDepth) (inner : Accessor)
    (subject value : Subject) :
    (r.traceFollow context depth inner subject value).Within r.maxDepth := by
  cases value with
  | string path => exact within_traceChain h path subject
  | _ => exact Traced.within_ofResult _

/-- An accessor beyond the limit is not evaluated, so only the others need be looked at. -/
theorem within_traceAccessor_of_le {depth : Nat} {accessor : Accessor} {subject : Subject}
    (h : depth ≤ r.maxDepth →
      (r.traceAccessor context subject depth accessor).Within r.maxDepth) :
    (r.traceAccessor context subject depth accessor).Within r.maxDepth := by
  obtain hlt | hle := Nat.lt_or_ge r.maxDepth depth
  · rw [traceAccessor_of_lt hlt]
    exact Traced.within_ofResult _
  · exact h hle

theorem within_traceAccessor (depth : Nat) (accessor : Accessor) (subject : Subject) :
    (r.traceAccessor context subject depth accessor).Within r.maxDepth := by
  induction accessor generalizing depth with
  | path text =>
    refine within_traceAccessor_of_le fun hle => ?_
    rw [traceAccessor_path hle]
    exact within_traceChain hle text subject
  | computed inner ih =>
    refine within_traceAccessor_of_le fun hle => ?_
    rw [traceAccessor_computed hle]
    refine (ih (depth + 1)).bind fun value hvalue => ?_
    -- an inner accessor beyond the limit has no value, so the path it yields is not beyond it
    have hinner : depth + 1 ≤ r.maxDepth := by
      refine Nat.not_lt.1 fun hlt => ?_
      rw [traceAccessor_of_lt hlt] at hvalue
      cases hvalue
    exact within_traceFollow hinner inner subject value

end Resolver

/-! ### Too many layers -/

/-- The accessor under some of the computed layers. -/
def Accessor.peel : Nat → Accessor → Accessor
  | 0, accessor => accessor
  | _ + 1, path text => path text
  | count + 1, computed inner => inner.peel count

theorem Resolver.traceAccessor_of_layers {r : Resolver} {context : Context} {left depth : Nat}
    (hleft : depth + left = r.maxDepth) (accessor : Accessor) (hlayers : left < accessor.depth)
    (subject : Subject) :
    r.traceAccessor context subject depth accessor =
      .ofResult (.error (r.depthFailure (accessor.peel (left + 1)).display subject)) := by
  induction accessor generalizing left depth with
  | path text => exact absurd hlayers (Nat.not_lt_zero left)
  | computed inner ih =>
    rw [traceAccessor_computed (by omega)]
    cases left with
    | zero =>
      rw [traceAccessor_of_lt (by omega)]
      rfl
    | succ left =>
      rw [ih (by omega) (Nat.lt_of_succ_lt_succ hlayers)]
      rfl

end Gleaner
