import Gleaner.Proofs.Resolver.Chain

/-!
# What the limit leaves alone

The limit on nestings shows in a result in one way only, as the depth failure. So of two runs that
differ in what they have left of the limit, the one with less either stops there or agrees with the
other. This is an order on results, with the depth failure at the bottom, and everything that
resolution does to a result is monotone in it: a scope, the fold over the segments of a path, the
two phases of a computed accessor. That a higher limit changes no answer, and that a nested
resolution is the one that stands alone, are read off from it.
-/

namespace Gleaner

namespace Resolver

def withLimit (limit : Nat) (r : Resolver) : Resolver :=
  { r with maxDepth := limit }

/-- Whether a result is the depth failure. -/
def DepthLimited (r : Resolver) (result : Except Failure Subject) : Prop :=
  ∃ accessor subject, result = .error (r.depthFailure accessor subject)

/-- Unless `x` is the depth failure, `y` is the same. -/
def Approximates (r : Resolver) (x y : Except Failure Subject) : Prop :=
  ¬ r.DepthLimited x → y = x

variable {r : Resolver} {context : Context}

theorem not_depthLimited_ok (value : Subject) : ¬ r.DepthLimited (.ok value) := by
  rintro ⟨accessor, subject, h⟩
  cases h

theorem depthLimited_depthFailure (accessor : String) (subject : Subject) :
    r.DepthLimited (.error (r.depthFailure accessor subject)) :=
  ⟨accessor, subject, rfl⟩

/-- What stops at the limit in its first part stops there as a whole. -/
theorem DepthLimited.bind {x : Except Failure Subject} (h : r.DepthLimited x)
    (f : Subject → Except Failure Subject) : r.DepthLimited (x >>= f) := by
  obtain ⟨accessor, subject, rfl⟩ := h
  exact depthLimited_depthFailure accessor subject

namespace Approximates

theorem refl (x : Except Failure Subject) : r.Approximates x x :=
  fun _ => rfl

theorem depthFailure (accessor : String) (subject : Subject) (y : Except Failure Subject) :
    r.Approximates (.error (r.depthFailure accessor subject)) y :=
  fun h => absurd (depthLimited_depthFailure accessor subject) h

theorem bind {x y : Except Failure Subject} {f g : Subject → Except Failure Subject}
    (hxy : r.Approximates x y) (hfg : ∀ value, r.Approximates (f value) (g value)) :
    r.Approximates (x >>= f) (y >>= g) := by
  intro h
  have hx : ¬ r.DepthLimited x := fun hx => h (hx.bind f)
  rw [hxy hx]
  cases x with
  | error failure => rfl
  | ok value => exact hfg value h

theorem foldlM {f g : Subject → String → Except Failure Subject}
    (hfg : ∀ value segment, r.Approximates (f value segment) (g value segment))
    (segments : List String) (subject : Subject) :
    r.Approximates (segments.foldlM f subject) (segments.foldlM g subject) := by
  induction segments generalizing subject with
  | nil => exact refl _
  | cons segment rest ih =>
    rw [List.foldlM_cons, List.foldlM_cons]
    exact (hfg subject segment).bind ih

end Approximates

/-! ### One segment -/

section Segment

variable {entry rest segment : String} {found : Subject}

theorem resolveSegment_scope (h : Segment.classify segment = .scope entry rest) (budget : Nat)
    (subject : Subject) :
    r.resolveSegment context budget subject segment =
      match context.lookup? entry with
      | none => .error (.extraction segment subject.typeName
          ("context entry '" ++ entry ++ "' not found"))
      | some found =>
        if Text.isBlank rest then .ok found
        else
          match budget with
          | 0 => .error (r.depthFailure segment subject)
          | budget + 1 => r.resolveSegment context budget found rest := by
  have hbody := resolveSegment.eq_1 r context budget subject segment
  rw [h] at hbody
  exact hbody

theorem resolveSegment_missing (h : Segment.classify segment = .scope entry rest)
    (hnone : context.lookup? entry = none) (budget : Nat) (subject : Subject) :
    r.resolveSegment context budget subject segment =
      .error (.extraction segment subject.typeName
        ("context entry '" ++ entry ++ "' not found")) := by
  rw [resolveSegment_scope h, hnone]

theorem resolveSegment_blank (h : Segment.classify segment = .scope entry rest)
    (hfound : context.lookup? entry = some found) (hblank : Text.isBlank rest = true)
    (budget : Nat) (subject : Subject) :
    r.resolveSegment context budget subject segment = .ok found := by
  rw [resolveSegment_scope h, hfound]
  exact if_pos hblank

theorem resolveSegment_zero (h : Segment.classify segment = .scope entry rest)
    (hfound : context.lookup? entry = some found) (hblank : ¬ Text.isBlank rest = true)
    (subject : Subject) :
    r.resolveSegment context 0 subject segment = .error (r.depthFailure segment subject) := by
  rw [resolveSegment_scope h, hfound]
  exact if_neg hblank

theorem resolveSegment_succ (h : Segment.classify segment = .scope entry rest)
    (hfound : context.lookup? entry = some found) (hblank : ¬ Text.isBlank rest = true)
    (budget : Nat) (subject : Subject) :
    r.resolveSegment context (budget + 1) subject segment =
      r.resolveSegment context budget found rest := by
  rw [resolveSegment_scope h, hfound]
  exact if_neg hblank

theorem resolveSegment_call {method : String} (h : Segment.classify segment = .call method)
    (budget : Nat) (subject : Subject) :
    r.resolveSegment context budget subject segment = r.invoke segment method subject := by
  rw [resolveSegment, h]

theorem resolveSegment_lookup {name : String} (h : Segment.classify segment = .lookup name)
    (budget : Nat) (subject : Subject) :
    r.resolveSegment context budget subject segment = r.lookup name subject := by
  rw [resolveSegment, h]

theorem resolveChain_lookup {name : String} (hdot : '.' ∉ name.toList)
    (hblank : ¬ Text.isBlank name = true) (hname : Segment.classify name = .lookup name)
    (budget : Nat) (subject : Subject) :
    r.resolveChain context budget name subject = r.lookup name subject := by
  rw [resolveChain_of_not_mem r context budget hdot, if_neg hblank, resolveSegment_lookup hname]

end Segment

theorem invoke_withLimit (limit : Nat) (segment method : String) (subject : Subject) :
    (r.withLimit limit).invoke segment method subject = r.invoke segment method subject :=
  rfl

theorem lookup_withLimit (limit : Nat) (name : String) (subject : Subject) :
    (r.withLimit limit).lookup name subject = r.lookup name subject :=
  rfl

theorem resolveSegment_mono (limit : Nat) {budget budget' : Nat} (hle : budget ≤ budget')
    (subject : Subject) (segment : String) :
    r.Approximates (r.resolveSegment context budget subject segment)
      ((r.withLimit limit).resolveSegment context budget' subject segment) := by
  fun_induction resolveSegment r context budget subject segment generalizing budget' with
  | case1 budget subject segment entry rest hscope hnone =>
    rw [resolveSegment_missing hscope hnone]
    exact .refl _
  | case2 budget subject segment entry rest hscope found hfound hblank =>
    rw [resolveSegment_blank hscope hfound hblank]
    exact .refl _
  | case3 subject segment entry rest hscope found hfound hblank =>
    exact .depthFailure _ _ _
  | case4 subject segment entry rest hscope found hfound hblank budget ih =>
    obtain ⟨budget', rfl⟩ : ∃ n, budget' = n + 1 := ⟨budget' - 1, by omega⟩
    rw [resolveSegment_succ hscope hfound hblank]
    exact ih (Nat.le_of_succ_le_succ hle)
  | case5 budget subject segment method hcall =>
    rw [resolveSegment_call hcall, invoke_withLimit]
    exact .refl _
  | case6 budget subject segment name hlookup =>
    rw [resolveSegment_lookup hlookup, lookup_withLimit]
    exact .refl _

/-! ### Paths and accessors -/

theorem resolveChain_mono (limit : Nat) {budget budget' : Nat} (hle : budget ≤ budget')
    (path : String) (subject : Subject) :
    r.Approximates (r.resolveChain context budget path subject)
      ((r.withLimit limit).resolveChain context budget' path subject) :=
  .foldlM (fun value segment => resolveSegment_mono limit hle value segment) _ subject

theorem resolveAccessor_path (budget : Nat) (text : String) (subject : Subject) :
    r.resolveAccessor context subject budget (.path text) =
      r.resolveChain context budget text subject := by
  rw [resolveAccessor]

/-- What a computed accessor makes of the value of its inner accessor. -/
def follow (r : Resolver) (context : Context) (budget : Nat) (inner : Accessor)
    (subject : Subject) : Subject → Except Failure Subject
  | .null => .ok subject
  | .string path => r.resolveChain context budget path subject
  | other => .error (.extraction (Accessor.computed inner).display subject.typeName
      ("computed accessor must yield string, received " ++ other.typeName))

/-- A computed accessor resolves in two phases, both one nesting deeper. -/
theorem resolveAccessor_computed (budget : Nat) (inner : Accessor) (subject : Subject) :
    r.resolveAccessor context subject (budget + 1) (.computed inner) =
      r.resolveAccessor context subject budget inner >>= r.follow context budget inner subject := by
  rw [resolveAccessor]
  cases r.resolveAccessor context subject budget inner with
  | error failure => rfl
  | ok value => cases value <;> rfl

theorem follow_mono (limit : Nat) {budget budget' : Nat} (hle : budget ≤ budget')
    (inner : Accessor) (subject value : Subject) :
    r.Approximates (r.follow context budget inner subject value)
      ((r.withLimit limit).follow context budget' inner subject value) := by
  cases value with
  | string path => exact resolveChain_mono limit hle path subject
  | _ => exact .refl _

theorem resolveAccessor_mono (limit : Nat) {budget budget' : Nat} (hle : budget ≤ budget')
    (accessor : Accessor) (subject : Subject) :
    r.Approximates (r.resolveAccessor context subject budget accessor)
      ((r.withLimit limit).resolveAccessor context subject budget' accessor) := by
  induction accessor generalizing budget budget' with
  | path text =>
    rw [resolveAccessor_path, resolveAccessor_path]
    exact resolveChain_mono limit hle text subject
  | computed inner ih =>
    cases budget with
    | zero => exact .depthFailure _ _ _
    | succ budget =>
      obtain ⟨budget', rfl⟩ : ∃ n, budget' = n + 1 := ⟨budget' - 1, by omega⟩
      have hle' : budget ≤ budget' := Nat.le_of_succ_le_succ hle
      rw [resolveAccessor_computed, resolveAccessor_computed]
      exact (ih hle').bind fun value => follow_mono limit hle' inner subject value

/-! ### Answers below the limit -/

/-- A higher limit changes no answer but the depth failure. -/
theorem resolve_withLimit (r : Resolver) (subject : Subject) (accessor : Accessor)
    (context : Context) {limit : Nat} (hle : r.maxDepth ≤ limit)
    (hbelow : ¬ r.DepthLimited (r.resolve subject accessor context)) :
    (r.withLimit limit).resolve subject accessor context = r.resolve subject accessor context :=
  resolveAccessor_mono limit hle accessor subject hbelow

theorem resolve_withLimit_nested :
    let r : Resolver := ⟨2, .silent⟩
    let subject : Subject := .map [(.text "age", .int 12)]
    let accessor : Accessor := .computed (.path "me::ask")
    let context : Context := ⟨[(.text "me", .map [(.text "ask", .string "age")])]⟩
    r.maxDepth ≤ 10 ∧ ¬ r.DepthLimited (r.resolve subject accessor context) ∧
      (r.withLimit 10).resolve subject accessor context = r.resolve subject accessor context := by
  intro r subject accessor context
  have hbelow : ¬ r.DepthLimited (r.resolve subject accessor context) := by
    have hscope : Segment.classify "me::ask" = .scope "me" "ask" := by decide
    have hname : Segment.classify "ask" = .lookup "ask" := by decide
    have hinner : r.resolveAccessor context subject 1 (.path "me::ask") = .ok (.string "age") := by
      rw [resolveAccessor_path, resolveChain_of_not_mem _ _ _ (by decide), if_neg (by decide),
        resolveSegment_succ hscope rfl (by decide)]
      exact resolveSegment_lookup hname 0 _
    have hok : r.resolve subject accessor context = .ok (.int 12) := by
      rw [resolve, resolveAccessor_computed, hinner]
      exact resolveChain_lookup (by decide) (by decide) (by decide) 1 subject
    rw [hok]
    exact not_depthLimited_ok _
  exact ⟨by decide, hbelow, resolve_withLimit r subject accessor context (by decide) hbelow⟩

/-- A computed accessor resolves as its inner accessor and the path that this yields, one after the
other and each on its own: null leaves the subject as it is, and any other value that is no path is
refused. -/
theorem resolve_computed (r : Resolver) (subject : Subject) (inner : Accessor) (context : Context)
    (hbelow : ¬ r.DepthLimited (r.resolve subject (.computed inner) context)) :
    r.resolve subject (.computed inner) context =
      match r.resolve subject inner context with
      | .error failure => .error failure
      | .ok .null => .ok subject
      | .ok (.string path) => r.resolvePath subject (some path) context
      | .ok other => .error (.extraction (Accessor.computed inner).display subject.typeName
          ("computed accessor must yield string, received " ++ other.typeName)) := by
  obtain ⟨limit, host⟩ := r
  cases limit with
  | zero => exact absurd (depthLimited_depthFailure inner.display subject) hbelow
  | succ budget =>
    let r : Resolver := ⟨budget + 1, host⟩
    have hnested : r.resolve subject (.computed inner) context =
        r.resolveAccessor context subject budget inner >>= r.follow context budget inner subject :=
      resolveAccessor_computed budget inner subject
    -- each phase approximates the one that has the whole limit to itself
    have halone : r.Approximates (r.resolve subject (.computed inner) context)
        (r.resolve subject inner context >>=
          r.follow context r.maxDepth inner subject) := by
      rw [hnested]
      exact (resolveAccessor_mono r.maxDepth (Nat.le_succ budget) inner subject).bind
        fun value => follow_mono r.maxDepth (Nat.le_succ budget) inner subject value
    rw [← halone hbelow]
    cases r.resolve subject inner context with
    | error failure => rfl
    | ok value => cases value <;> rfl

theorem resolve_computed_price :
    let r : Resolver := ⟨1, .silent⟩
    let subject : Subject := .map [(.text "field", .string "price"), (.text "price", .int 12)]
    ¬ r.DepthLimited (r.resolve subject (.computed (.path "field")) .empty) ∧
      r.resolve subject (.computed (.path "field")) .empty =
        r.resolvePath subject (some "price") .empty := by
  intro r subject
  have hfield (budget : Nat) :
      r.resolveAccessor .empty subject budget (.path "field") = .ok (.string "price") := by
    rw [resolveAccessor_path]
    exact resolveChain_lookup (by decide) (by decide) (by decide) budget subject
  have hok : r.resolve subject (.computed (.path "field")) .empty = .ok (.int 12) := by
    rw [resolve, resolveAccessor_computed, hfield]
    exact resolveChain_lookup (by decide) (by decide) (by decide) 0 subject
  have hbelow : ¬ r.DepthLimited (r.resolve subject (.computed (.path "field")) .empty) := by
    rw [hok]
    exact not_depthLimited_ok _
  have htwo := resolve_computed r subject (.path "field") .empty hbelow
  have hinner : r.resolve subject (.path "field") .empty = .ok (.string "price") := hfield 1
  rw [hinner] at htwo
  exact ⟨hbelow, htwo⟩

end Resolver

end Gleaner
