import Gleaner.Proofs.Resolver.Scope

/-!
# What a path does not depend on

Scopes are the only way from a path into the context, and the only way for a path to leave the
subject behind. Without a double colon in the path no segment has one, so the context plays no part,
nor does the limit, which counts scopes. From a segment with a double colon on, the subject plays no
part: the segment goes on at an entry of the context or fails, and in what it fails with the subject
shows by the name of its type alone.
-/

namespace Gleaner

/-! ### Failures that differ in the subject type -/

def Site.withSubjectType (subjectType : String) : Site → Site
  | extraction accessor _ => extraction accessor subjectType
  | other => other

/-- Failures that agree in all facts but the type of the subject. -/
structure Failure.Alike (f g : Failure) : Prop where
  kind : f.kind = g.kind
  origin : f.origin? = g.origin?
  messages : f.messages = g.messages
  cause : f.cause? = g.cause?
  subjectType : ∃ subjectType, g = f.onSite (Site.withSubjectType subjectType)

theorem Failure.Alike.refl (f : Failure) : f.Alike f := by
  refine ⟨rfl, rfl, rfl, rfl, ?_⟩
  cases f with
  | stage index inner => exact ⟨"", rfl⟩
  | plain site messages cause =>
    cases site with
    | extraction accessor subjectType => exact ⟨subjectType, rfl⟩
    | _ => exact ⟨"", rfl⟩

theorem Failure.alike_extraction (accessor subjectType subjectType' message : String) :
    (Failure.extraction accessor subjectType message).Alike
      (Failure.extraction accessor subjectType' message) :=
  ⟨rfl, rfl, rfl, rfl, subjectType', rfl⟩

namespace Resolver

inductive Alike : Except Failure Subject → Except Failure Subject → Prop
  | ok (value : Subject) : Alike (.ok value) (.ok value)
  | error {f g : Failure} (h : f.Alike g) : Alike (.error f) (.error g)

theorem Alike.refl (x : Except Failure Subject) : Alike x x := by
  cases x with
  | ok value => exact .ok value
  | error f => exact .error (.refl f)

theorem Alike.bind {x y : Except Failure Subject} (h : Alike x y)
    (f : Subject → Except Failure Subject) : Alike (x >>= f) (y >>= f) := by
  cases h with
  | ok value => exact .refl _
  | error h => exact .error h

variable {r : Resolver} {context context' : Context}

/-! ### Paths without scopes -/

theorem resolveSegment_unscoped {segment : String} (h : ¬ [':', ':'] <:+: segment.toList)
    (limit limit' budget budget' : Nat) (subject : Subject) :
    (r.withLimit limit).resolveSegment context budget subject segment =
      (r.withLimit limit').resolveSegment context' budget' subject segment := by
  obtain ⟨method, hcall⟩ | hlookup := Segment.classify_call_or_lookup h
  · rw [resolveSegment_call hcall, resolveSegment_call hcall, invoke_withLimit, invoke_withLimit]
  · rw [resolveSegment_lookup hlookup, resolveSegment_lookup hlookup, lookup_withLimit,
      lookup_withLimit]

theorem foldlM_congr {f g : Subject → String → Except Failure Subject} {segments : List String}
    (h : ∀ segment ∈ segments, ∀ subject, f subject segment = g subject segment)
    (subject : Subject) : segments.foldlM f subject = segments.foldlM g subject := by
  induction segments generalizing subject with
  | nil => rfl
  | cons segment rest ih =>
    rw [List.foldlM_cons, List.foldlM_cons, h segment List.mem_cons_self]
    exact congrArg _ (funext (ih fun other hother => h other (List.mem_cons_of_mem _ hother)))

theorem resolveChain_unscoped {path : String} (h : ¬ [':', ':'] <:+: path.toList)
    (limit limit' budget budget' : Nat) (subject : Subject) :
    (r.withLimit limit).resolveChain context budget path subject =
      (r.withLimit limit').resolveChain context' budget' path subject :=
  foldlM_congr (fun _ hsegment => resolveSegment_unscoped (Path.unscoped_of_mem_segments h hsegment)
    limit limit' budget budget') subject

/-! ### Behind a scope -/

/-- A scope leads away from any two subjects to the same place. -/
theorem resolveSegment_alike {segment entry rest : String}
    (h : Segment.classify segment = .scope entry rest) (budget : Nat) (subject subject' : Subject) :
    Alike (r.resolveSegment context budget subject segment)
      (r.resolveSegment context budget subject' segment) := by
  cases hfound : context.lookup? entry with
  | none =>
    rw [resolveSegment_missing h hfound, resolveSegment_missing h hfound]
    exact .error (Failure.alike_extraction _ _ _ _)
  | some found =>
    by_cases hblank : Text.isBlank rest = true
    · rw [resolveSegment_blank h hfound hblank, resolveSegment_blank h hfound hblank]
      exact .refl _
    · cases budget with
      | zero =>
        rw [resolveSegment_zero h hfound hblank, resolveSegment_zero h hfound hblank]
        exact .error (Failure.alike_extraction _ _ _ _)
      | succ budget =>
        rw [resolveSegment_succ h hfound hblank, resolveSegment_succ h hfound hblank]
        exact .refl _

/-- Paths without scopes see neither the context nor the limit, and what follows a scope does not
see the subject, as long as what stands before the scope resolves. -/
theorem resolvePath_isolated (r : Resolver) :
    (∀ path, ¬ [':', ':'] <:+: path.toList → ∀ subject limit limit' context context',
      (r.withLimit limit).resolvePath subject (some path) context =
        (r.withLimit limit').resolvePath subject (some path) context') ∧
    ∀ before segment after, '.' ∉ segment.toList → [':', ':'] <:+: segment.toList →
      ∀ context subject subject' value value',
        r.resolvePath subject (some before) context = .ok value →
        r.resolvePath subject' (some before) context = .ok value' →
        Alike (r.resolvePath subject (some (before ++ "." ++ segment ++ "." ++ after)) context)
          (r.resolvePath subject' (some (before ++ "." ++ segment ++ "." ++ after)) context) := by
  constructor
  · intro path hpath subject limit limit' context context'
    exact resolveChain_unscoped hpath limit limit' limit limit' subject
  · intro before segment after hdot hcolons context subject subject' value value' hvalue hvalue'
    obtain ⟨entry, rest, hscope⟩ := Segment.exists_classify_eq_scope_iff.2 hcolons
    simp only [resolvePath, Option.getD_some] at hvalue hvalue' ⊢
    rw [resolveChain_append, resolveChain_append, resolveChain_append, resolveChain_append, hvalue,
      hvalue']
    refine Alike.bind ?_ _
    show Alike (r.resolveChain context r.maxDepth segment value)
      (r.resolveChain context r.maxDepth segment value')
    rw [resolveChain_of_not_mem r context _ hdot, resolveChain_of_not_mem r context _ hdot,
      if_neg (Path.not_isBlank_of_colons hcolons), if_neg (Path.not_isBlank_of_colons hcolons)]
    exact resolveSegment_alike hscope r.maxDepth value value'

theorem resolvePath_isolated_user :
    let r : Resolver := ⟨1, .silent⟩
    let subject : Subject := .map [(.text "a", .int 1)]
    let subject' : Subject := .map [(.text "a", .string "b")]
    let context : Context := ⟨[(.text "user", .null)]⟩
    (r.withLimit 0).resolvePath subject (some "a") .empty =
        (r.withLimit 9).resolvePath subject (some "a") context ∧
      r.resolvePath subject (some "a") context = .ok (.int 1) ∧
      r.resolvePath subject' (some "a") context = .ok (.string "b") ∧
      Alike (r.resolvePath subject (some ("a" ++ "." ++ "me::x" ++ "." ++ "y")) context)
        (r.resolvePath subject' (some ("a" ++ "." ++ "me::x" ++ "." ++ "y")) context) := by
  intro r subject subject' context
  have ha : Segment.classify "a" = .lookup "a" := by decide
  have hvalue : r.resolvePath subject (some "a") context = .ok (.int 1) :=
    resolveChain_lookup (by decide) (by decide) ha 1 subject
  have hvalue' : r.resolvePath subject' (some "a") context = .ok (.string "b") :=
    resolveChain_lookup (by decide) (by decide) ha 1 subject'
  obtain ⟨hunscoped, hscoped⟩ := resolvePath_isolated r
  exact ⟨hunscoped "a" (by decide) subject 0 9 .empty context, hvalue, hvalue',
    hscoped "a" "me::x" "y" (by decide) (by decide) context subject subject' _ _ hvalue hvalue'⟩

end Resolver

end Gleaner
