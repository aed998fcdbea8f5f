import Gleaner.Proofs.Path.Reading
import Gleaner.Proofs.Resolver.Limit

/-!
# Scopes at the head of a path

A path is split at its dots before a scope is looked for, so a scope reaches as far as the next dot.
Still, what stands behind a scope at the head of a path is resolved as a path of its own would be on
the entry. The first dot of it bounds the same segment in both, a blank segment is the identity in
both, and the one nesting that the scope takes can show in the depth failure only.
-/

namespace Gleaner

namespace Resolver

variable {r : Resolver} {context : Context}

theorem resolveSegment_found {segment entry rest : String} {found : Subject}
    (h : Segment.classify segment = .scope entry rest) (hfound : context.lookup? entry = some found)
    (budget : Nat) (subject : Subject) :
    r.Approximates (r.resolveSegment context budget subject segment)
      (if Text.isBlank rest then .ok found else r.resolveSegment context budget found rest) := by
  by_cases hblank : Text.isBlank rest = true
  · rw [resolveSegment_blank h hfound hblank, if_pos hblank]
    exact .refl _
  · rw [if_neg hblank]
    cases budget with
    | zero =>
      rw [resolveSegment_zero h hfound hblank]
      exact .depthFailure _ _ _
    | succ budget =>
      rw [resolveSegment_succ h hfound hblank]
      exact resolveSegment_mono r.maxDepth (Nat.le_succ budget) found rest

theorem exists_resolveChain_scope (r : Resolver) (context : Context) (budget : Nat)
    {entry : String} (h : '.' ∉ entry.toList) (rest : String) :
    ∃ others : List String,
      (∀ subject, r.resolveChain context budget (entry ++ "::" ++ rest) subject =
        r.resolveSegment context budget subject (entry ++ "::" ++ Path.firstPart rest) >>=
          others.foldlM (r.resolveSegment context budget)) ∧
      ∀ subject, r.resolveChain context budget rest subject =
        (if Text.isBlank (Path.firstPart rest) then .ok subject
          else r.resolveSegment context budget subject (Path.firstPart rest)) >>=
            others.foldlM (r.resolveSegment context budget) := by
  obtain ⟨others, hscope, hrest⟩ := Path.segments_scope h rest
  refine ⟨others, fun subject => ?_, fun subject => ?_⟩
  · rw [resolveChain, hscope, List.foldlM_cons]
  · rw [resolveChain, hrest]
    split
    · rfl
    · rw [List.foldlM_cons]

/-- A path behind a scope is resolved on the entry of the context, as if it stood alone there, and
the subject plays no part in it. Without the entry the path fails at once. -/
theorem resolvePath_scope (r : Resolver) (subject : Subject) (context : Context) {entry : String}
    (hdot : '.' ∉ entry.toList) (hentry : Path.IsEntry entry.toList) (rest : String) :
    (∀ found, context.lookup? entry = some found →
      ¬ r.DepthLimited (r.resolvePath subject (some (entry ++ "::" ++ rest)) context) →
        r.resolvePath subject (some (entry ++ "::" ++ rest)) context =
          r.resolvePath found (some rest) context) ∧
    (context.lookup? entry = none →
      r.resolvePath subject (some (entry ++ "::" ++ rest)) context =
        .error (.extraction (entry ++ "::" ++ Path.firstPart rest) subject.typeName
          ("context entry '" ++ entry ++ "' not found"))) := by
  have hclass := Segment.classify_scope hentry (Path.firstPart rest)
  obtain ⟨others, hscope, hrest⟩ := exists_resolveChain_scope r context r.maxDepth hdot rest
  simp only [resolvePath, Option.getD_some, hscope, hrest]
  constructor
  · intro found hfound hbelow
    have hfirst : r.Approximates _ _ := resolveSegment_found hclass hfound r.maxDepth subject
    exact (hfirst.bind (fun value => .refl _) hbelow).symm
  · intro hnone
    rw [resolveSegment_missing hclass hnone]
    rfl

theorem resolvePath_scope_user :
    let r : Resolver := ⟨1, .silent⟩
    let user : Subject := .map [(.text "pet", .map [(.text "name", .string "Rex")])]
    let context : Context := ⟨[(.text "user", user)]⟩
    r.resolvePath .null (some ("user" ++ "::" ++ "pet. .name")) context =
        r.resolvePath user (some "pet. .name") context ∧
      r.resolvePath .null (some ("me" ++ "::" ++ "pet. .name")) context =
        .error (.extraction ("me" ++ "::" ++ Path.firstPart "pet. .name") "null"
          ("context entry '" ++ "me" ++ "' not found")) := by
  intro r user context
  have hfound : context.lookup? "user" = some user := by rfl
  have hok : r.resolvePath .null (some ("user" ++ "::" ++ "pet. .name")) context =
      .ok (.string "Rex") := by
    have hsegments : Path.segments ("user" ++ "::" ++ "pet. .name") = ["user::pet", "name"] := by
      decide
    have hscope : Segment.classify "user::pet" = .scope "user" "pet" := by decide
    have hpet : Segment.classify "pet" = .lookup "pet" := by decide
    have hname : Segment.classify "name" = .lookup "name" := by decide
    rw [resolvePath, Option.getD_some, resolveChain, hsegments, List.foldlM_cons,
      resolveSegment_succ hscope hfound (by decide), resolveSegment_lookup hpet]
    show ["name"].foldlM (r.resolveSegment context 1) (.map [(.text "name", .string "Rex")]) = _
    rw [List.foldlM_cons, resolveSegment_lookup hname]
    rfl
  have hbelow : ¬ r.DepthLimited
      (r.resolvePath .null (some ("user" ++ "::" ++ "pet. .name")) context) := by
    rw [hok]
    exact not_depthLimited_ok _
  have hnone : context.lookup? "me" = none := by rfl
  have huser : Path.IsEntry "user".toList := ⟨by decide, by decide⟩
  have hme : Path.IsEntry "me".toList := ⟨by decide, by decide⟩
  exact ⟨(resolvePath_scope r .null context (by decide) huser "pet. .name").1 user hfound hbelow,
    (resolvePath_scope r .null context (by decide) hme "pet. .name").2 hnone⟩

end Resolver

end Gleaner
