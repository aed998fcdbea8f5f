import Gleaner.Proofs.Resolver.Evaluation
import Gleaner.Proofs.Resolver.Scope
import Gleaner.Proofs.Traversal

/-!
# When the limit is exceeded

The depth failure is told from every other failure by its message, so a resolution that ends in it
has met a guard. For a segment, that is so exactly if it goes through one scope more than is left of
the limit, with something to read behind each, and if the context has all of these entries: a
missing entry, a blank remainder, a call or a lookup would have ended the recursion first. For an
accessor, one computed layer more than the limit is enough, and then no path is evaluated at all.
-/

namespace Gleaner

namespace Segment

theorem length_lt_of_classify {segment entry rest : String}
    (h : classify segment = .scope entry rest) : rest.toList.length < segment.toList.length := by
  rw [← (classify_eq_iff.1 h).1, toList_text_scope, List.length_append, List.length_cons,
    List.length_cons]
  omega

/-- The entries that a segment switches to in turn, while something is left to read behind them. -/
def switches (segment : String) : List String :=
  match h : classify segment with
  | .scope entry rest =>
    have := length_lt_of_classify h
    if Text.isBlank rest then [] else entry :: switches rest
  | _ => []
termination_by segment.toList.length

theorem switches_scope {segment entry rest : String} (h : classify segment = .scope entry rest) :
    switches segment = if Text.isBlank rest then [] else entry :: switches rest := by
  rw [switches]
  split
  · rename_i entry' rest' h'
    rw [h] at h'
    cases h'
    rfl
  · rename_i hne
    exact absurd h (hne entry rest)

theorem switches_eq_nil {segment : String}
    (h : ∀ entry rest, classify segment ≠ .scope entry rest) : switches segment = [] := by
  rw [switches]
  split
  · rename_i entry rest hscope
    exact absurd hscope (h entry rest)
  · rfl

end Segment

namespace Resolver

variable {r : Resolver} {context : Context}

/-! ### Other failures -/

theorem append_ne_append {s t : String} {count : Nat} (hs : count ≤ s.toList.length)
    (ht : count ≤ t.toList.length) (h : s.toList.take count ≠ t.toList.take count) (x y : String) :
    s ++ x ≠ t ++ y := by
  intro heq
  apply h
  have hchars : (s ++ x).toList.take count = (t ++ y).toList.take count := by rw [heq]
  rwa [String.toList_append, String.toList_append, List.take_append_of_le_length hs,
    List.take_append_of_le_length ht] at hchars

theorem not_depthLimited_extraction {start : String} (hlength : 2 ≤ start.toList.length)
    (hstart : start.toList.take 2 ≠ ['m', 'a']) (rest accessor typeName : String) :
    ¬ r.DepthLimited (.error (.extraction accessor typeName (start ++ rest))) := by
  rintro ⟨accessor', subject, heq⟩
  have hmessages := congrArg Failure.messages (Except.error.inj heq)
  have hmessage := (List.cons.inj hmessages).1
  rw [String.append_assoc] at hmessage
  have hdepth : "maximum accessor depth of ".toList.take 2 = ['m', 'a'] := by decide
  exact append_ne_append hlength (by decide) (hdepth ▸ hstart) _ _ hmessage

theorem not_depthLimited_withCause (accessor typeName message : String) (cause : Cause) :
    ¬ r.DepthLimited (.error ((Failure.extraction accessor typeName message).withCause cause)) := by
  rintro ⟨accessor', subject, heq⟩
  have hcause := congrArg Failure.cause? (Except.error.inj heq)
  cases hcause

theorem not_depthLimited_invokeOnce (segment method : String) (subject : Subject) :
    ¬ r.DepthLimited (r.invokeOnce segment method subject) := by
  cases subject with
  | object o =>
    rw [invokeOnce]
    split
    · exact not_depthLimited_ok _
    · exact not_depthLimited_withCause _ _ _ _
    · rw [String.append_assoc, String.append_assoc]
      exact not_depthLimited_extraction (by decide) (by decide) _ _ _
  | _ =>
    simp only [invokeOnce, String.append_assoc]
    exact not_depthLimited_extraction (by decide) (by decide) _ _ _

theorem not_depthLimited_invoke (segment method : String) (subject : Subject) :
    ¬ r.DepthLimited (r.invoke segment method subject) := by
  cases subject with
  | sequence items =>
    rintro ⟨accessor, found, hfailure⟩
    obtain ⟨item, -, hitem⟩ :=
      Traversal.exists_of_mapM_error (Traversal.map_eq_error_iff.1 hfailure)
    exact not_depthLimited_invokeOnce segment method item ⟨accessor, found, hitem⟩
  | map entries =>
    rintro ⟨accessor, found, hfailure⟩
    obtain ⟨⟨key, item⟩, -, hitem⟩ :=
      Traversal.exists_of_mapM_error (Traversal.map_eq_error_iff.1 hfailure)
    exact not_depthLimited_invokeOnce segment method item
      ⟨accessor, found, Traversal.map_eq_error_iff.1 hitem⟩
  | _ =>
    simp only [invoke]
    exact not_depthLimited_invokeOnce segment method _

theorem not_depthLimited_lookup (name : String) (subject : Subject) :
    ¬ r.DepthLimited (r.lookup name subject) := by
  cases subject with
  | map entries =>
    simp only [lookup, String.append_assoc]
    split
    · exact not_depthLimited_ok _
    · exact not_depthLimited_extraction (by decide) (by decide) _ _ _
  | sequence items =>
    simp only [lookup, String.append_assoc]
    split
    · exact not_depthLimited_ok _
    · exact not_depthLimited_extraction (by decide) (by decide) _ _ _
  | object o =>
    simp only [lookup, String.append_assoc]
    split
    · exact not_depthLimited_ok _
    · split
      · exact not_depthLimited_ok _
      · exact not_depthLimited_withCause _ _ _ _
      · exact not_depthLimited_extraction (by decide) (by decide) _ _ _
  | _ =>
    simp only [lookup, String.append_assoc]
    exact not_depthLimited_extraction (by decide) (by decide) _ _ _

/-! ### Too many scopes -/

/-- A segment exceeds what is left of the limit exactly if it goes through more scopes than that and
finds the entries of as many as it takes. -/
theorem depthLimited_resolveSegment_iff (budget : Nat) (subject : Subject) (segment : String) :
    r.DepthLimited (r.resolveSegment context budget subject segment) ↔
      budget + 1 ≤ (Segment.switches segment).length ∧
        ∀ entry ∈ (Segment.switches segment).take (budget + 1),
          (context.lookup? entry).isSome := by
  fun_induction resolveSegment r context budget subject segment with
  | case1 budget subject segment entry rest hscope hnone =>
    have hother : ¬ r.DepthLimited (.error (.extraction segment subject.typeName
        ("context entry '" ++ entry ++ "' not found"))) := by
      rw [String.append_assoc]
      exact not_depthLimited_extraction (by decide) (by decide) _ _ _
    refine iff_of_false hother ?_
    rw [Segment.switches_scope hscope]
    split
    · simp
    · simp [hnone]
  | case2 budget subject segment entry rest hscope found hfound hblank =>
    refine iff_of_false (not_depthLimited_ok found) ?_
    rw [Segment.switches_scope hscope, if_pos hblank]
    simp
  | case3 subject segment entry rest hscope found hfound hblank =>
    refine iff_of_true (depthLimited_depthFailure segment subject) ?_
    rw [Segment.switches_scope hscope, if_neg hblank]
    simp [hfound]
  | case4 subject segment entry rest hscope found hfound hblank budget ih =>
    rw [ih, Segment.switches_scope hscope, if_neg hblank]
    simp [hfound]
  | case5 budget subject segment method hcall =>
    refine iff_of_false (not_depthLimited_invoke segment method subject) ?_
    rw [Segment.switches_eq_nil (by simp [hcall])]
    simp
  | case6 budget subject segment name hlookup =>
    refine iff_of_false (not_depthLimited_lookup name subject) ?_
    rw [Segment.switches_eq_nil (by simp [hlookup])]
    simp

/-! ### The limit -/

/-- The guards hold at the limit and not before it. An accessor with more computed layers than the
limit fails before a path is evaluated, and the failure shows what is under the layers that the
limit allows and one more. Nothing is evaluated deeper than the limit. A segment at a depth within
the limit meets it exactly if it goes through more scopes than are left and finds their entries. -/
theorem guard_at_limit (r : Resolver) (context : Context) :
    (∀ subject accessor, r.maxDepth < accessor.depth →
      r.resolve subject accessor context =
          .error (r.depthFailure (accessor.peel (r.maxDepth + 1)).display subject) ∧
        (r.trace subject accessor context).evaluations = []) ∧
    (∀ subject accessor,
      (r.trace subject accessor context).result = r.resolve subject accessor context ∧
        ∀ evaluation ∈ (r.trace subject accessor context).evaluations,
          evaluation.depth ≤ r.maxDepth) ∧
    (∀ subject path,
      (r.tracePath subject path context).result = r.resolvePath subject path context ∧
        ∀ evaluation ∈ (r.tracePath subject path context).evaluations,
          evaluation.depth ≤ r.maxDepth) ∧
    ∀ subject segment depth, depth ≤ r.maxDepth →
      (r.traceSegment context depth subject segment).result =
          r.resolveSegment context (r.maxDepth - depth) subject segment ∧
        (r.DepthLimited (r.resolveSegment context (r.maxDepth - depth) subject segment) ↔
          r.maxDepth - depth + 1 ≤ (Segment.switches segment).length ∧
            ∀ entry ∈ (Segment.switches segment).take (r.maxDepth - depth + 1),
              (context.lookup? entry).isSome) := by
  refine ⟨fun subject accessor hlayers => ?_, fun subject accessor => ?_, fun subject path => ?_,
    fun subject segment depth _ => ?_⟩
  · have htrace : r.trace subject accessor context =
        .ofResult (.error (r.depthFailure (accessor.peel (r.maxDepth + 1)).display subject)) :=
      traceAccessor_of_layers (Nat.zero_add r.maxDepth) accessor hlayers subject
    rw [← trace_result, htrace]
    exact ⟨rfl, rfl⟩
  · exact ⟨trace_result subject accessor, within_traceAccessor 0 accessor subject⟩
  · exact ⟨tracePath_result subject path, within_traceChain (Nat.zero_le _) _ subject⟩
  · exact ⟨traceSegment_result rfl subject segment,
      depthLimited_resolveSegment_iff _ subject segment⟩

theorem guard_at_limit_one :
    let r : Resolver := ⟨1, .silent⟩
    let context : Context := ⟨[(.text "a", .null), (.text "b", .null)]⟩
    (r.resolve .null (.computed (.computed (.path "x"))) context =
          .error (r.depthFailure "x" .null) ∧
        (r.trace .null (.computed (.computed (.path "x"))) context).evaluations = []) ∧
      (∀ evaluation ∈ [Evaluation.path 1 "x", .segment 1 "x"], evaluation.depth ≤ r.maxDepth) ∧
      r.DepthLimited (r.resolveSegment context (r.maxDepth - 0) .null "a::b::x") := by
  intro r context
  obtain ⟨hlayers, hwithin, -, hscopes⟩ := guard_at_limit r context
  have hx : Segment.classify "x" = .lookup "x" := by decide
  have hevaluations : (r.trace .null (.computed (.path "x")) context).evaluations =
      [.path 1 "x", .segment 1 "x"] := by
    have hsegments : Path.segments "x" = ["x"] := by decide
    rw [trace, traceAccessor_computed (by decide), traceAccessor_path (by decide), traceChain,
      hsegments, List.foldlM_cons, traceSegment, hx]
    rfl
  have habx : Segment.classify "a::b::x" = .scope "a" "b::x" := by decide
  have hbx : Segment.classify "b::x" = .scope "b" "x" := by decide
  have hswitches : Segment.switches "a::b::x" = "a" :: "b" :: Segment.switches "x" := by
    rw [Segment.switches_scope habx, if_neg (by decide), Segment.switches_scope hbx,
      if_neg (by decide)]
  refine ⟨hlayers .null (.computed (.computed (.path "x"))) (by decide), ?_,
    (hscopes .null "a::b::x" 0 (by decide)).2.2 ?_⟩
  · exact hevaluations ▸ (hwithin .null (.computed (.path "x"))).2
  · rw [hswitches]
    refine ⟨Nat.le_add_left 2 _, ?_⟩
    show ∀ entry ∈ ["a", "b"], (context.lookup? entry).isSome
    decide

end Resolver

end Gleaner
