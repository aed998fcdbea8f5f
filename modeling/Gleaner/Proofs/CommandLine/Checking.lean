import Gleaner.CommandLine.Checking
import Gleaner.Proofs.Extractor.Refusal

/-!
# A check predicts what a run builds

A definition is checked without any data, and it is built again when data is there. A pipeline is
checked by building it, so the check can only say what the run finds. A mapping is another matter: a
run builds the stages of a field when it gets to the field, and stops at the first failure, while
the check builds the stages of all fields and collects what is wrong with them.

Both look at nothing but the names of the stages. So the check of a mapping succeeds exactly if each
of its fields has a pipeline. Then the look-up is not what fails in any run, whatever the data: a
field fails because its accessor cannot be resolved or because one of its stages refuses the
payload. If the check fails, each field that it complains about fails on all data that its accessor
can be resolved on.
-/

namespace Gleaner.CommandLine

variable {x : Extractor} {c : Catalogue} {path : String} {document : Json} {mapping : Mapping}

/-! ### Reading definitions -/

theorem pipelineOf_eq_ok_iff {p : Pipeline} : pipelineOf x document = .ok p ↔
    ∃ d, PipelineDefinition.ofJson document = .ok d ∧ x.catalogue.build d = .ok p := by
  rw [pipelineOf]
  cases PipelineDefinition.ofJson document with
  | error failure => exact iff_of_false nofun fun ⟨_, h, _⟩ => nomatch h
  | ok d =>
    rw [Traversal.mapError_eq_ok_iff]
    constructor
    · intro h
      exact ⟨d, rfl, h⟩
    · rintro ⟨_, ⟨⟩, h⟩
      exact h

theorem names_of_mappingOf (h : mappingOf path document = .ok mapping) :
    ∃ members, document = .object members ∧ mapping.map Prod.fst = members.map Prod.fst := by
  cases document with
  | object members =>
    have hread : Mapping.read (.object members) = .ok mapping := Traversal.mapError_eq_ok_iff.1 h
    exact ⟨members, rfl, Mapping.names_of_read hread⟩
  | _ => cases h

namespace Summary

/-! ### The problems of a mapping -/

/-- The message about a field whose stages cannot be built, if it is one: it names the first stage
that is not in the catalogue. -/
def fieldProblem? (c : Catalogue) (field : String × FieldRule) : Option String :=
  (field.2.transformations.find? fun t => !c.contains t.name).map fun t =>
    "field '" ++ field.1 ++ "': " ++ ("unknown stage '" ++ t.name ++ "'")

theorem fieldProblem?_eq_none_iff {field : String × FieldRule} :
    fieldProblem? c field = none ↔ ∃ p, c.pipeline field.2.transformations = .ok p := by
  rw [fieldProblem?, Option.map_eq_none_iff, List.find?_eq_none, Catalogue.exists_pipeline_iff]
  simp

theorem fieldProblems_eq (c : Catalogue) (name : String) (rule : FieldRule) :
    fieldProblems c name rule = (fieldProblem? c (name, rule)).toList := by
  rw [fieldProblems]
  cases hpipeline : c.pipeline rule.transformations with
  | ok p =>
    have hnone : fieldProblem? c (name, rule) = none := fieldProblem?_eq_none_iff.2 ⟨p, hpipeline⟩
    rw [hnone]
    rfl
  | error failure =>
    obtain ⟨t, ht, rfl⟩ := Catalogue.pipeline_eq_error_iff.1 hpipeline
    rw [fieldProblem?, ht]
    rfl

/-- The problems of a mapping are those of its fields, in order and at most one for each. -/
theorem problems_eq_filterMap (c : Catalogue) (mapping : Mapping) :
    (mapping.flatMap fun (name, rule) => fieldProblems c name rule) =
      mapping.filterMap (fieldProblem? c) := by
  rw [List.filterMap_eq_flatMap_toList]
  exact congrArg (mapping.flatMap ·) (funext fun (name, rule) => fieldProblems_eq c name rule)

theorem problems_eq_nil_iff : mapping.filterMap (fieldProblem? c) = [] ↔
    ∀ field ∈ mapping, ∃ p, c.pipeline field.2.transformations = .ok p := by
  simp only [List.filterMap_eq_nil_iff, fieldProblem?_eq_none_iff]

/-! ### What a check gives -/

theorem ofMapping_eq_ok_iff {s : Summary} : ofMapping c path mapping = .ok s ↔
    (∀ field ∈ mapping, ∃ p, c.pipeline field.2.transformations = .ok p) ∧
    s = ⟨.mapping, mapping.map fun (name, rule) =>
      ⟨name, some rule.accessor.display, rule.transformations.map Transformation.name⟩⟩ := by
  rw [ofMapping, problems_eq_filterMap, ← problems_eq_nil_iff]
  cases mapping.filterMap (fieldProblem? c) with
  | nil => simp only [Except.ok.injEq, true_and, eq_comm]
  | cons problem rest => exact iff_of_false nofun fun ⟨h, _⟩ => nomatch h

theorem ofMapping_eq_error_iff {failure : Failure} : ofMapping c path mapping = .error failure ↔
    (∃ field ∈ mapping, ∀ p, c.pipeline field.2.transformations ≠ .ok p) ∧
    failure = .configurationAll (some path) (mapping.filterMap (fieldProblem? c)) := by
  have hsound : (∃ field ∈ mapping, ∀ p, c.pipeline field.2.transformations ≠ .ok p) ↔
      mapping.filterMap (fieldProblem? c) ≠ [] := by
    rw [Ne, problems_eq_nil_iff]
    push Not
    rfl
  rw [hsound, ofMapping, problems_eq_filterMap]
  cases mapping.filterMap (fieldProblem? c) with
  | nil => exact iff_of_false nofun fun ⟨h, _⟩ => h rfl
  | cons problem rest => simp only [Except.error.injEq, ne_eq, reduceCtorEq, not_false_eq_true,
      true_and, eq_comm]

theorem ofDocument_pipeline_eq_ok_iff {s : Summary} :
    ofDocument x .pipeline path document = .ok s ↔
      ∃ d p, PipelineDefinition.ofJson document = .ok d ∧ x.catalogue.build d = .ok p ∧
        s = ⟨.pipeline, d.stages.zipIdx.map fun (stage, index) =>
          ⟨Numeral.ofNat index, none, [stage.stage]⟩⟩ := by
  have hsummary : ∀ {d p}, x.catalogue.build d = .ok p →
      ofPipeline p = ⟨.pipeline, d.stages.zipIdx.map fun (stage, index) =>
        ⟨Numeral.ofNat index, none, [stage.stage]⟩⟩ := by
    intro d p hbuild
    rw [ofPipeline, Catalogue.names_of_build hbuild, List.zipIdx_map, List.map_map]
    rfl
  rw [ofDocument, Traversal.map_eq_ok_iff]
  simp only [pipelineOf_eq_ok_iff]
  constructor
  · rintro ⟨p, ⟨d, hd, hbuild⟩, rfl⟩
    exact ⟨d, p, hd, hbuild, hsummary hbuild⟩
  · rintro ⟨d, p, hd, hbuild, rfl⟩
    exact ⟨p, ⟨d, hd, hbuild⟩, hsummary hbuild⟩

theorem ofDocument_mapping_of_ok (h : mappingOf path document = .ok mapping) :
    ofDocument x .mapping path document =
      (ofMapping x.catalogue path mapping).mapError .engine := by
  rw [ofDocument, h]

theorem ofDocument_mapping_eq_ok_iff {s : Summary} :
    ofDocument x .mapping path document = .ok s ↔
      ∃ mapping, mappingOf path document = .ok mapping ∧
        (∀ field ∈ mapping, ∃ p, x.catalogue.pipeline field.2.transformations = .ok p) ∧
        s = ⟨.mapping, mapping.map fun (name, rule) =>
          ⟨name, some rule.accessor.display, rule.transformations.map Transformation.name⟩⟩ := by
  cases hmapping : mappingOf path document with
  | error problem =>
    rw [ofDocument, hmapping]
    exact iff_of_false nofun fun ⟨_, h, _⟩ => nomatch h
  | ok mapping =>
    rw [ofDocument_mapping_of_ok hmapping, Traversal.mapError_eq_ok_iff, ofMapping_eq_ok_iff]
    constructor
    · intro h
      exact ⟨mapping, rfl, h⟩
    · rintro ⟨_, ⟨⟩, h⟩
      exact h

theorem ofDocument_mapping_eq_error_iff (h : mappingOf path document = .ok mapping)
    {problem : Problem} : ofDocument x .mapping path document = .error problem ↔
      (∃ field ∈ mapping, ∀ p, x.catalogue.pipeline field.2.transformations ≠ .ok p) ∧
      problem = .engine (.configurationAll (some path)
        (mapping.filterMap (fieldProblem? x.catalogue))) := by
  rw [ofDocument_mapping_of_ok h, Traversal.mapError_eq_error_iff]
  simp only [ofMapping_eq_error_iff]
  constructor
  · rintro ⟨_, ⟨hfield, rfl⟩, rfl⟩
    exact ⟨hfield, rfl⟩
  · rintro ⟨hfield, rfl⟩
    exact ⟨_, ⟨hfield, rfl⟩, rfl⟩

/-! ### What a run meets -/

section Run

variable {subject value : Subject} {context : Context} {failure : Failure}

/-- A mapping whose fields all have a pipeline fails as one of its fields does, while the accessor
is resolved or while the pipeline processes what was found. -/
theorem exists_of_extractFields_error
    (hbuilt : ∀ field ∈ mapping, ∃ p, x.catalogue.pipeline field.2.transformations = .ok p)
    (h : x.extractFields subject mapping context = .error failure) :
    ∃ name rule p cause, (name, rule) ∈ mapping ∧
      x.catalogue.pipeline rule.transformations = .ok p ∧
      x.extract subject rule.accessor rule.transformations context = .error cause ∧
      (x.resolver.resolve subject rule.accessor context = .error cause ∨
        ∃ value, x.resolver.resolve subject rule.accessor context = .ok value ∧
          p.process value context = .error cause) ∧
      failure = cause.withMessage (Extractor.fieldMessage name) := by
  obtain ⟨before, name, rule, after, site, messages, cause, rfl, -, hrule, rfl⟩ :=
    Extractor.extractFields_eq_error_iff.1 h
  have hfield : (name, rule) ∈ before ++ (name, rule) :: after :=
    List.mem_append_right _ List.mem_cons_self
  obtain ⟨p, hpipeline⟩ := hbuilt _ hfield
  have hplace := hrule
  rw [Extractor.extractRule, Extractor.extract_eq_process hpipeline,
    Traversal.bind_eq_error_iff] at hplace
  exact ⟨name, rule, p, _, hfield, hpipeline, hrule, hplace, rfl⟩

/-- With the built-in stages, an extraction whose stages are all found fails over a definition only
in the name of one of them. -/
theorem origin_of_configuration {r : Resolver} (hcatalogue : x.catalogue = .builtIn r)
    {accessor : Accessor} {ts : List Transformation} {p : Pipeline}
    (hpipeline : x.catalogue.pipeline ts = .ok p)
    (h : x.extract subject accessor ts context = .error failure)
    (hkind : failure.kind = .configuration) :
    ∃ t ∈ ts, x.catalogue.contains t.name = true ∧ failure.origin? = some t.name := by
  cases hresolve : x.resolver.resolve subject accessor context with
  | error cause =>
    rw [Extractor.extract_of_resolve_error hresolve] at h
    obtain rfl := Except.error.inj h
    rw [Resolver.kind_of_resolve hresolve] at hkind
    cases hkind
  | ok value =>
    obtain ⟨-, t, ht, horigin⟩ := Extractor.ofStage_of_extract_error hcatalogue hresolve h
    exact ⟨t, ht, Catalogue.exists_pipeline_iff.1 ⟨p, hpipeline⟩ t ht, horigin⟩

theorem extract_of_no_pipeline {rule : FieldRule}
    (hbroken : ∀ p, x.catalogue.pipeline rule.transformations ≠ .ok p)
    (hresolve : x.resolver.resolve subject rule.accessor context = .ok value) :
    ∃ failure, x.extract subject rule.accessor rule.transformations context = .error failure ∧
      failure.kind = .configuration := by
  cases hpipeline : x.catalogue.pipeline rule.transformations with
  | ok p => exact absurd hpipeline (hbroken p)
  | error failure =>
    have hfails : x.extract subject rule.accessor rule.transformations context = .error failure :=
      Extractor.extract_eq_error_iff.2 (.inr ⟨value, hresolve, .inl hpipeline⟩)
    obtain ⟨t, -, rfl⟩ := Catalogue.pipeline_eq_error_iff.1 hpipeline
    exact ⟨_, hfails, rfl⟩

end Run

/-- A check predicts a run. That of a pipeline succeeds exactly if the pipeline can be read and
built, and lists its stages by their indices. That of a mapping succeeds exactly if the mapping can
be read and the stages of each field can be built, and lists the fields in the order of the
document. No field of such a mapping ever fails because of a stage that is not in the catalogue.
Otherwise the first such stage of each field is reported, and one of the fields fails with a
configuration failure wherever its accessor can be resolved. -/
theorem ofDocument_predicts (x : Extractor) (path : String) (document : Json) :
    (∀ s, ofDocument x .pipeline path document = .ok s ↔
      ∃ d p, PipelineDefinition.ofJson document = .ok d ∧ x.catalogue.build d = .ok p ∧
        s = ⟨.pipeline, d.stages.zipIdx.map fun (stage, index) =>
          ⟨Numeral.ofNat index, none, [stage.stage]⟩⟩) ∧
    (∀ s, ofDocument x .mapping path document = .ok s ↔
      ∃ mapping, mappingOf path document = .ok mapping ∧
        (∀ field ∈ mapping, ∃ p, x.catalogue.pipeline field.2.transformations = .ok p) ∧
        s = ⟨.mapping, mapping.map fun (name, rule) =>
          ⟨name, some rule.accessor.display, rule.transformations.map Transformation.name⟩⟩) ∧
    ∀ mapping, mappingOf path document = .ok mapping →
      (∃ members, document = .object members ∧
        mapping.map Prod.fst = members.map Prod.fst) ∧
      (∀ field ∈ mapping, (∃ p, x.catalogue.pipeline field.2.transformations = .ok p) ↔
        ∀ t ∈ field.2.transformations, x.catalogue.contains t.name = true) ∧
      (∀ s, ofDocument x .mapping path document = .ok s → ∀ subject context failure,
        x.extractFields subject mapping context = .error failure →
        ∃ name rule p cause, (name, rule) ∈ mapping ∧
          x.catalogue.pipeline rule.transformations = .ok p ∧
          (x.resolver.resolve subject rule.accessor context = .error cause ∨
            ∃ value, x.resolver.resolve subject rule.accessor context = .ok value ∧
              p.process value context = .error cause) ∧
          failure = cause.withMessage ("field '" ++ name ++ "' could not be produced") ∧
          ∀ r, x.catalogue = .builtIn r → failure.kind = .configuration →
            ∃ t ∈ rule.transformations, x.catalogue.contains t.name = true ∧
              failure.origin? = some t.name) ∧
      ∀ problem, ofDocument x .mapping path document = .error problem →
        problem = .engine (.configurationAll (some path) (mapping.filterMap fun (name, rule) =>
          (rule.transformations.find? fun t => !x.catalogue.contains t.name).map fun t =>
            "field '" ++ name ++ "': " ++ ("unknown stage '" ++ t.name ++ "'"))) ∧
        ∃ field ∈ mapping, ∀ subject context value,
          x.resolver.resolve subject field.2.accessor context = .ok value →
          ∃ failure, x.extract subject field.2.accessor field.2.transformations context =
            .error failure ∧ failure.kind = .configuration := by
  refine ⟨fun s => ofDocument_pipeline_eq_ok_iff, fun s => ofDocument_mapping_eq_ok_iff,
    fun mapping hmapping => ⟨names_of_mappingOf hmapping,
      fun field _ => Catalogue.exists_pipeline_iff, fun s hs => ?_, fun problem h => ?_⟩⟩
  · intro subject context failure hfailure
    obtain ⟨_, hread, hbuilt, -⟩ := ofDocument_mapping_eq_ok_iff.1 hs
    obtain rfl := Except.ok.inj (hmapping.symm.trans hread)
    obtain ⟨name, rule, p, cause, hfield, hpipeline, hextract, hplace, rfl⟩ :=
      exists_of_extractFields_error hbuilt hfailure
    refine ⟨name, rule, p, cause, hfield, hpipeline, hplace, rfl, fun r hcatalogue hkind => ?_⟩
    rw [Failure.kind_withMessage] at hkind
    rw [Failure.origin?_withMessage]
    exact origin_of_configuration hcatalogue hpipeline hextract hkind
  · obtain ⟨⟨field, hfield, hbroken⟩, rfl⟩ := (ofDocument_mapping_eq_error_iff hmapping).1 h
    exact ⟨rfl, field, hfield, fun subject context value => extract_of_no_pipeline hbroken⟩

/-- A mapping that is accepted and still fails over a stage that is there, for want of an argument;
and with one more field, whose second stage is misspelt, it is refused. -/
theorem ofDocument_predicts_codes :
    let x := Extractor.standard ⟨32, .silent⟩
    let subject : Subject := .map [(.text "code", .int 7)]
    let typed : Transformation := ⟨"type", []⟩
    let uper : Transformation := ⟨"uper", []⟩
    let field (stages : List String) : Json :=
      .object [("accessor", .string "code"),
        ("pipeline", .array (stages.map fun name => .object [("stage", .string name)]))]
    let accepted : Json := .object [("first", field ["type"])]
    let refused : Json := .object [("second", field ["type", "uper"]), ("first", field ["type"])]
    let sound : Mapping := [("first", ⟨.path "code", [typed]⟩)]
    let unsound : Mapping := ("second", ⟨.path "code", [typed, uper]⟩) :: sound
    let failure : Failure := .plain (.configuration (some "type"))
      ["'type' validator needs a type name, found null", "field 'first' could not be produced"] none
    mappingOf "m.json" accepted = .ok sound ∧
      (∃ s, ofDocument x .mapping "m.json" accepted = .ok s) ∧
      x.extractFields subject sound .empty = .error failure ∧
      (∃ field ∈ sound, ∃ t ∈ field.2.transformations, x.catalogue.contains t.name = true ∧
        failure.origin? = some t.name) ∧
      mappingOf "m.json" refused = .ok unsound ∧
      (¬ ∃ p, x.catalogue.pipeline [typed, uper] = .ok p) ∧
      ofDocument x .mapping "m.json" refused = .error (.engine (.configurationAll (some "m.json")
        ["field 'second': unknown stage 'uper'"])) ∧
      x.resolver.resolve subject (.path "code") .empty = .ok (.int 7) ∧
      ∃ field ∈ unsound, ∃ failure,
        x.extract subject field.2.accessor field.2.transformations .empty = .error failure ∧
        failure.kind = .configuration := by
  intro x subject typed uper field accepted refused sound unsound failure
  have hresolve : x.resolver.resolve subject (.path "code") .empty = .ok (.int 7) := rfl
  have hextract : x.extract subject (.path "code") [typed] .empty =
      .error (.plain (.configuration (some "type"))
        ["'type' validator needs a type name, found null"] none) := by
    have hpipeline : x.catalogue.pipeline [typed] =
        .ok ⟨[(Operation.validator (BuiltIn.typeIs ⟨32, .silent⟩)).bind "type"
          typed.arguments]⟩ := rfl
    rw [Extractor.extract_eq_process hpipeline, hresolve]
    change Pipeline.process _ (.int 7) .empty = _
    rw [Pipeline.process, Pipeline.run_eq_fold]
    rfl
  have hfailure : x.extractFields subject sound .empty = .error failure :=
    Extractor.extractFields_eq_error_iff.2
      ⟨[], "first", _, [], _, _, _, rfl, by simp, hextract, rfl⟩
  obtain ⟨-, -, haccepted⟩ := ofDocument_predicts x "m.json" accepted
  obtain ⟨-, -, hruns, -⟩ := haccepted sound rfl
  obtain ⟨name, rule, -, -, hrule, -, -, -, horigin⟩ := hruns _ rfl subject .empty failure hfailure
  obtain ⟨-, -, hrefused⟩ := ofDocument_predicts x "m.json" refused
  obtain ⟨-, hbuilt, -, hproblem⟩ := hrefused unsound rfl
  have hunknown : ¬ ∃ p, x.catalogue.pipeline [typed, uper] = .ok p := by
    intro hp
    have hcontains := (hbuilt _ List.mem_cons_self).1 hp uper (by simp)
    cases hcontains
  obtain ⟨-, broken, hbroken, hfails⟩ := hproblem _ rfl
  have haccessor : ∀ field ∈ unsound, field.2.accessor = .path "code" := by
    simp [unsound, sound]
  have hfails := hfails subject .empty (.int 7) (by rw [haccessor broken hbroken, hresolve])
  exact ⟨rfl, ⟨_, rfl⟩, hfailure, ⟨(name, rule), hrule, horigin _ rfl rfl⟩, rfl, hunknown,
    rfl, hresolve, broken, hbroken, hfails⟩

end Summary

end Gleaner.CommandLine
