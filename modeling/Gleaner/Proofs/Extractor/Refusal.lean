import Gleaner.Proofs.Extractor.Fields
import Gleaner.Proofs.Stage.Refusal

/-!
# What extracting fails with

An extraction fails in one of three places: its accessor cannot be resolved, a stage is not in the
catalogue, or a stage fails on the payload that reaches it. Whatever wrappers a stage puts around
its failure are taken off, so no failure of the extractor, and none of a mapping, is wrapped.

With the built-in stages the kind of the failure tells the place. Only the resolution of the
accessor itself fails as an extraction. An extraction in an argument of a stage fails too, but what
leaves the stage is its own failure, with that of the extraction behind it.
-/

namespace Gleaner.Extractor

variable {x : Extractor} {subject value payload : Subject} {context : Context}
  {accessor : Accessor} {ts : List Transformation} {failure : Failure}

/-! ### Where an extraction fails -/

/-- The payload that reaches a stage: what the accessor leads to, after the stages before. -/
def Reaches (x : Extractor) (subject : Subject) (accessor : Accessor) (ts : List Transformation)
    (context : Context) (index : Nat) (payload : Subject) : Prop :=
  ∃ value p, x.resolver.resolve subject accessor context = .ok value ∧
    x.catalogue.pipeline ts = .ok p ∧
    (p.stages.take index).foldlM (fun v stage => stage.apply v context) value = .ok payload

theorem extract_of_resolve_error
    (h : x.resolver.resolve subject accessor context = .error failure) :
    x.extract subject accessor ts context = .error failure :=
  extract_eq_error_iff.2 (.inl h)

theorem stage_getElem {p : Pipeline} (h : x.catalogue.pipeline ts = .ok p) {n : Nat}
    (hn : n < p.stages.length) : ∃ hn' : n < ts.length,
      x.catalogue.stage ts[n] = .ok p.stages[n] := by
  have hstages := Catalogue.pipeline_eq_ok_iff.1 h
  have hn' : n < ts.length := by rwa [hstages.length_eq]
  exact ⟨hn', hstages.get hn' hn⟩

theorem exists_of_extract_error (h : x.extract subject accessor ts context = .error failure) :
    x.resolver.resolve subject accessor context = .error failure ∨
    (∃ t ∈ ts, failure = Catalogue.unknownStage t.name) ∨
    ∃ (n : Nat) (hn : n < ts.length) (payload : Subject) (stage : Stage) (inner : Failure),
      x.Reaches subject accessor ts context n payload ∧ x.catalogue.stage ts[n] = .ok stage ∧
      stage.apply payload context = .error inner ∧ failure = inner.unwrapped := by
  obtain hresolve | ⟨value, hresolve, hpipeline | ⟨p, hpipeline, hprocess⟩⟩ :=
    extract_eq_error_iff.1 h
  · exact .inl hresolve
  · obtain ⟨t, ht, hfailure⟩ := Catalogue.pipeline_eq_error_iff.1 hpipeline
    exact .inr (.inl ⟨t, List.mem_of_find?_eq_some ht, hfailure⟩)
  · obtain ⟨n, hn, payload, inner, hpayload, hinner, hfailure⟩ :=
      (p.process_eq_error_iff value context).1 hprocess
    obtain ⟨hn', hstage⟩ := stage_getElem hpipeline hn
    have hreaches : x.Reaches subject accessor ts context n payload :=
      ⟨value, p, hresolve, hpipeline, hpayload⟩
    exact .inr (.inr ⟨n, hn', payload, p.stages[n], inner, hreaches, hstage, hinner, hfailure⟩)

theorem extract_of_apply_error {n : Nat} (hn : n < ts.length)
    (hreaches : x.Reaches subject accessor ts context n payload)
    (h : ∀ stage, x.catalogue.stage ts[n] = .ok stage →
      stage.apply payload context = .error failure) :
    x.extract subject accessor ts context = .error failure.unwrapped := by
  obtain ⟨value, p, hresolve, hpipeline, hpayload⟩ := hreaches
  have hn' : n < p.stages.length := by
    rwa [← (Catalogue.pipeline_eq_ok_iff.1 hpipeline).length_eq]
  obtain ⟨_, hstage⟩ := stage_getElem hpipeline hn'
  have hprocess : p.process value context = .error failure.unwrapped :=
    (p.process_eq_error_iff value context).2
      ⟨n, hn', payload, failure, hpayload, h _ hstage, rfl⟩
  exact extract_eq_error_iff.2 (.inr ⟨value, hresolve, .inr ⟨p, hpipeline, hprocess⟩⟩)

/-! ### The built-in stages -/

section BuiltIn

variable {r : Resolver} (hcatalogue : x.catalogue = .builtIn r)
include hcatalogue

theorem ofStage_of_extract_error
    (hresolve : x.resolver.resolve subject accessor context = .ok value)
    (h : x.extract subject accessor ts context = .error failure) :
    failure.kind.OfStage ∧ ∃ t ∈ ts, failure.origin? = some t.name := by
  obtain herror | ⟨t, ht, rfl⟩ | ⟨n, hn, payload, stage, inner, -, hstage, hinner, rfl⟩ :=
    exists_of_extract_error h
  · rw [hresolve] at herror
    cases herror
  · exact ⟨trivial, t, ht, rfl⟩
  · rw [hcatalogue] at hstage
    have ht : ts[n] ∈ ts := List.getElem_mem hn
    obtain ⟨name, cause, -, rfl⟩ | hrefusal :=
      (BuiltIn.surfaces_apply hstage payload context).of_error inner hinner
    · exact ⟨trivial, ts[n], ht, rfl⟩
    · have hplain : inner.kind ≠ .stage := hrefusal.kind.ne id
      rw [Failure.unwrapped_of_kind_ne_stage hplain]
      exact ⟨hrefusal.kind, ts[n], ht, hrefusal.origin⟩

theorem extract_of_asked_error {n : Nat} (hn : n < ts.length)
    (hreaches : x.Reaches subject accessor ts context n payload) {name : String} {cause : Failure}
    (h : (name, .error cause) ∈ BuiltIn.asked r ts[n] payload context) :
    x.extract subject accessor ts context =
      .error (BuiltIn.expansionFailure ts[n].name name ts[n].arguments cause) := by
  have happly : ∀ stage, x.catalogue.stage ts[n] = .ok stage → stage.apply payload context =
      .error (BuiltIn.expansionFailure ts[n].name name ts[n].arguments cause) := by
    intro stage hstage
    rw [hcatalogue] at hstage
    exact (BuiltIn.surfaces_apply hstage payload context).of_asked name cause h
  exact extract_of_apply_error hn hreaches happly

end BuiltIn

/-- No extraction and no mapping fails with a wrapper. With the built-in stages an extraction never
fails for a service, and it fails as an extraction exactly if its own accessor cannot be resolved,
and then with that failure. What goes wrong in an argument of a stage, be it an extraction or a
computed key, comes out as a transformation failure of the stage, with the cause behind it. -/
theorem extract_taxonomy (x : Extractor) (subject : Subject) (context : Context) :
    (∀ accessor ts failure, x.extract subject accessor ts context = .error failure →
      failure.kind ≠ .stage) ∧
    (∀ mapping failure, x.extractFields subject mapping context = .error failure →
      failure.kind ≠ .stage) ∧
    ∀ r, x.catalogue = .builtIn r → ∀ accessor ts,
      (∀ failure, x.extract subject accessor ts context = .error failure →
        failure.kind ≠ .notFound ∧ failure.kind ≠ .invalidInstance ∧
        (failure.kind = .extraction ↔
          ∃ cause, x.resolver.resolve subject accessor context = .error cause)) ∧
      (∀ cause, x.resolver.resolve subject accessor context = .error cause →
        x.extract subject accessor ts context = .error cause) ∧
      ∀ (n : Nat) (hn : n < ts.length) (payload : Subject) (name : String) (cause : Failure),
        x.Reaches subject accessor ts context n payload →
        (name, .error cause) ∈ BuiltIn.asked r ts[n] payload context →
        (cause.kind = .extraction ∨ cause.kind = .configuration) ∧
        ∃ failure, x.extract subject accessor ts context = .error failure ∧
          failure.kind = .transformation ∧ failure.origin? = some ts[n].name ∧
          failure.cause? = some (.failure cause) := by
  refine ⟨fun accessor ts failure => kind_of_extract_ne_stage, fun mapping failure h => ?_,
    fun r hcatalogue accessor ts => ⟨fun failure h => ?_, fun cause => extract_of_resolve_error,
      fun n hn payload name cause hreaches hasked => ⟨?_, ?_⟩⟩⟩
  · obtain ⟨_, name, _, _, site, messages, cause, -, -, hrule, rfl⟩ :=
      extractFields_eq_error_iff.1 h
    have hkind := kind_of_extract_ne_stage hrule
    exact hkind
  · cases hresolve : x.resolver.resolve subject accessor context with
    | error cause =>
      rw [extract_of_resolve_error hresolve] at h
      obtain rfl := Except.error.inj h
      have hkind := Resolver.kind_of_resolve hresolve
      rw [hkind]
      exact ⟨nofun, nofun, iff_of_true rfl ⟨cause, rfl⟩⟩
    | ok value =>
      obtain ⟨hkind, -⟩ := ofStage_of_extract_error hcatalogue hresolve h
      exact ⟨hkind.ne id, hkind.ne id, iff_of_false (hkind.ne id) fun ⟨_, herror⟩ => nomatch herror⟩
  · obtain ⟨value, hvalue⟩ := BuiltIn.exists_value_of_asked hasked
    exact BuiltIn.kind_of_expand hvalue
  · exact ⟨_, extract_of_asked_error hcatalogue hn hreaches hasked, rfl, rfl, rfl⟩

theorem extract_taxonomy_default :
    let x := Extractor.standard ⟨32, .silent⟩
    let subject : Subject := .map [(.text "code", .null)]
    let t : Transformation :=
      ⟨"default", [(.literal (.text "value"), .extraction ⟨.path "code"⟩)]⟩
    let cause := Failure.extraction "code" "null" "cannot read 'code' from null"
    x.catalogue = .builtIn ⟨32, .silent⟩ ∧
      x.Reaches subject (.path "code") [t] .empty 0 .null ∧
      ("value", .error cause) ∈ BuiltIn.asked ⟨32, .silent⟩ t .null .empty ∧
      ∃ failure, x.extract subject (.path "code") [t] .empty = .error failure ∧
        failure.kind = .transformation ∧ failure.origin? = some "default" ∧
        failure.cause? = some (.failure cause) := by
  intro x subject t cause
  have hreaches : x.Reaches subject (.path "code") [t] .empty 0 .null :=
    ⟨.null, _, rfl, rfl, rfl⟩
  have hasked : ("value", .error cause) ∈ BuiltIn.asked ⟨32, .silent⟩ t .null .empty :=
    List.mem_singleton.2 rfl
  obtain ⟨-, -, hbuiltIn⟩ := extract_taxonomy x subject .empty
  obtain ⟨-, -, harguments⟩ := hbuiltIn _ rfl (.path "code") [t]
  exact ⟨rfl, hreaches, hasked,
    (harguments 0 Nat.zero_lt_one .null "value" cause hreaches hasked).2⟩

end Gleaner.Extractor
