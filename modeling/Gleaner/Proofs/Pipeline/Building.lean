import Gleaner.Pipeline.Definition
import Gleaner.Proofs.Entries
import Gleaner.Proofs.Traversal

/-!
# Building reports every defect

A stage of a definition can be wrong in two ways: the catalogue does not know its name, or its
arguments break the grammar. A pipeline is built exactly if no stage is wrong, and then from the
stages in order, each bound to what its arguments say. Otherwise the failure has one message for
each defect and no other: first the unknown names, then the broken arguments, each in the order of
the stages. Since the names are checked first, looking the stages up again cannot fail.
-/

namespace Gleaner

namespace Arguments

def fault? (document : Json) : Option ArgumentFault :=
  match read document with
  | .ok _ => none
  | .error fault => some fault

theorem fault?_eq_none_iff {document : Json} :
    fault? document = none ↔ ∃ args, ofJson document = .ok args := by
  rw [fault?, ofJson]
  cases read document with
  | ok args => exact iff_of_true rfl ⟨args, rfl⟩
  | error fault => exact iff_of_false nofun nofun

end Arguments

namespace PipelineDefinition

/-! ### Defects -/

/-- The stages, with their indices, whose names are not in the catalogue. -/
def unregistered (c : Catalogue) (d : PipelineDefinition) : List (StageDefinition × Nat) :=
  d.stages.zipIdx.filter fun (stage, _) => stage.stage ∉ c.operations.map Prod.fst

/-- The stages, with their indices, whose arguments cannot be read, and why. -/
def malformed (d : PipelineDefinition) : List ((StageDefinition × Nat) × ArgumentFault) :=
  d.stages.zipIdx.filterMap fun stage =>
    (Arguments.fault? stage.1.args).map fun fault => (stage, fault)

variable {c : Catalogue} {d : PipelineDefinition}

theorem forall_mem_zipIdx {P : StageDefinition → Prop} :
    (∀ stage ∈ d.stages.zipIdx, P stage.1) ↔ ∀ stage ∈ d.stages, P stage := by
  rw [← List.forall_mem_map (f := Prod.fst), List.zipIdx_map_fst]

theorem unregistered_eq_nil_iff :
    d.unregistered c = [] ↔ ∀ stage ∈ d.stages, stage.stage ∈ c.operations.map Prod.fst := by
  rw [unregistered, List.filter_eq_nil_iff, ← forall_mem_zipIdx]
  simp only [decide_eq_true_iff, not_not]

theorem malformed_eq_nil_iff :
    d.malformed = [] ↔ ∀ stage ∈ d.stages, ∃ args, Arguments.ofJson stage.args = .ok args := by
  rw [malformed, List.filterMap_eq_nil_iff, ← forall_mem_zipIdx]
  simp only [Option.map_eq_none_iff, Arguments.fault?_eq_none_iff]

theorem unknownStages_eq_map : d.unknownStages c =
    (d.unregistered c).map fun (stage, index) =>
      "stage " ++ Numeral.ofNat index ++ ": unknown stage '" ++ stage.stage ++ "'" := by
  rw [unknownStages, indexed, unregistered]
  induction d.stages.zipIdx with
  | nil => rfl
  | cons entry rest ih =>
    obtain ⟨stage, index⟩ := entry
    have hknown : c.contains stage.stage = true ↔ stage.stage ∈ c.operations.map Prod.fst :=
      Entries.contains_iff
    by_cases hstage : stage.stage ∈ c.operations.map Prod.fst <;> simp [hknown, hstage, ih]

/-- A list of arguments that cannot be read has one message. -/
theorem argumentProblems_eq_map : d.argumentProblems =
    d.malformed.map fun ((stage, index), fault) =>
      "stage " ++ Numeral.ofNat index ++ " '" ++ stage.stage ++ "': " ++ fault.message := by
  rw [argumentProblems, indexed, malformed]
  induction d.stages.zipIdx with
  | nil => rfl
  | cons entry rest ih =>
    obtain ⟨stage, index⟩ := entry
    rw [List.flatMap_cons, ih, List.filterMap_cons]
    simp only [Arguments.ofJson, Arguments.fault?]
    cases Arguments.read stage.args with
    | ok args => rfl
    | error fault => rfl

/-! ### Definitions without defects -/

theorem forall₂_readable
    (h : ∀ stage ∈ d.stages, ∃ args, Arguments.ofJson stage.args = .ok args) :
    List.Forall₂ (fun (stage : StageDefinition) (t : Transformation) =>
      t.name = stage.stage ∧ Arguments.ofJson stage.args = .ok t.arguments)
      d.stages d.readable := by
  rw [readable]
  generalize d.stages = stages at h ⊢
  induction stages with
  | nil => exact .nil
  | cons stage rest ih =>
    obtain ⟨args, hargs⟩ := h stage List.mem_cons_self
    rw [List.filterMap_cons, hargs]
    exact .cons ⟨rfl, hargs⟩ (ih fun s hs => h s (List.mem_cons_of_mem _ hs))

theorem transformations_of_malformed_eq_nil (h : d.malformed = []) :
    d.transformations = .ok d.readable := by
  rw [transformations, argumentProblems_eq_map, h]
  rfl

end PipelineDefinition

/-! ### Building -/

namespace Catalogue

variable {c : Catalogue} {d : PipelineDefinition}

/-- The stage that a definition stands for runs the operation that has its name, with the arguments
that it gives. A validator leaves the payload as it is. -/
def Binds (c : Catalogue) (definition : StageDefinition) (stage : Stage) : Prop :=
  ∃ operation args, c.operations.lookup definition.stage = some operation ∧
    Arguments.ofJson definition.args = .ok args ∧ stage.name = definition.stage ∧
    match operation with
    | .transformer transform =>
      ∀ payload context, stage.apply payload context = transform payload args context
    | .validator validate => ∀ payload context, stage.apply payload context =
        match validate payload args context with
        | .ok () => .ok payload
        | .error failure => .error failure

theorem binds_bind {definition : StageDefinition} {operation : Operation} {args : Arguments}
    (hoperation : c.operations.lookup definition.stage = some operation)
    (hargs : Arguments.ofJson definition.args = .ok args) :
    c.Binds definition (operation.bind definition.stage args) := by
  cases operation with
  | transformer transform => exact ⟨_, args, hoperation, hargs, rfl, fun _ _ => rfl⟩
  | validator validate =>
    refine ⟨_, args, hoperation, hargs, rfl, fun payload context => ?_⟩
    show (validate payload args context).map (fun _ => payload) = _
    cases validate payload args context <;> rfl

theorem pipeline_eq_ok_iff {ts : List Transformation} {p : Pipeline} :
    c.pipeline ts = .ok p ↔ List.Forall₂ (fun t stage => c.stage t = .ok stage) ts p.stages := by
  rw [Catalogue.pipeline, Traversal.map_eq_ok_iff]
  simp only [Traversal.mapM_eq_ok_iff]
  constructor
  · rintro ⟨stages, hstages, rfl⟩
    exact hstages
  · intro h
    exact ⟨p.stages, h, rfl⟩

def unknownStage (name : String) : Failure :=
  (Failure.configuration ("unknown stage '" ++ name ++ "'")).withOrigin name

theorem exists_stage_iff {t : Transformation} :
    (∃ stage, c.stage t = .ok stage) ↔ c.contains t.name = true := by
  rw [Catalogue.stage, contains, Entries.contains]
  cases Entries.get? t.name c.operations <;> simp

theorem stage_eq_error_iff {t : Transformation} {failure : Failure} :
    c.stage t = .error failure ↔ c.contains t.name = false ∧ failure = unknownStage t.name := by
  rw [Catalogue.stage, contains, Entries.contains]
  cases Entries.get? t.name c.operations with
  | none =>
    constructor
    · rintro ⟨⟩
      exact ⟨rfl, rfl⟩
    · rintro ⟨-, rfl⟩
      rfl
  | some operation => simp

theorem exists_pipeline_iff {ts : List Transformation} :
    (∃ p, c.pipeline ts = .ok p) ↔ ∀ t ∈ ts, c.contains t.name = true := by
  rw [Catalogue.pipeline, Traversal.exists_map_eq_ok_iff, Traversal.exists_mapM_eq_ok_iff]
  simp only [exists_stage_iff]

/-- A pipeline is not built because of the first name that the catalogue does not have. -/
theorem pipeline_eq_error_iff {ts : List Transformation} {failure : Failure} :
    c.pipeline ts = .error failure ↔ ∃ t, ts.find? (fun t => !c.contains t.name) = some t ∧
      failure = unknownStage t.name := by
  rw [Catalogue.pipeline, Traversal.map_eq_error_iff, Traversal.mapM_eq_error_iff]
  simp only [exists_stage_iff, stage_eq_error_iff, List.find?_eq_some_iff_append]
  constructor
  · rintro ⟨before, t, after, rfl, hbefore, hunknown, rfl⟩
    refine ⟨t, ⟨by rw [hunknown]; rfl, before, after, rfl, fun earlier hearlier => ?_⟩, rfl⟩
    rw [hbefore earlier hearlier]
    rfl
  · rintro ⟨t, ⟨hunknown, before, after, rfl, hbefore⟩, rfl⟩
    refine ⟨before, t, after, rfl, fun earlier hearlier => ?_, ?_, rfl⟩
    · simpa using hbefore earlier hearlier
    · simpa using hunknown

theorem exists_stages {definitions : List StageDefinition} {ts : List Transformation}
    (h : List.Forall₂ (fun (stage : StageDefinition) (t : Transformation) =>
      t.name = stage.stage ∧ Arguments.ofJson stage.args = .ok t.arguments) definitions ts)
    (hknown : ∀ stage ∈ definitions, stage.stage ∈ c.operations.map Prod.fst) :
    ∃ stages, List.Forall₂ (fun t stage => c.stage t = .ok stage) ts stages ∧
      List.Forall₂ c.Binds definitions stages := by
  induction h with
  | nil => exact ⟨[], .nil, .nil⟩
  | @cons definition t definitions ts hhead _ ih =>
    obtain ⟨hname, hargs⟩ := hhead
    obtain ⟨operation, hoperation⟩ :=
      Option.isSome_iff_exists.1 (Entries.contains_iff.2 (hknown definition List.mem_cons_self))
    obtain ⟨stages, hstages, hbinds⟩ := ih fun s hs => hknown s (List.mem_cons_of_mem _ hs)
    have hstage : c.stage t = .ok (operation.bind definition.stage t.arguments) := by
      rw [Catalogue.stage, hname, hoperation]
    rw [Entries.get?_eq_lookup] at hoperation
    exact ⟨_, .cons hstage hstages, .cons (binds_bind hoperation hargs) hbinds⟩

theorem build_of_defects (h : ¬ (d.unregistered c = [] ∧ d.malformed = [])) :
    c.build d = .error (PipelineDefinition.problemFailure (d.unknownStages c ++
      d.argumentProblems)) := by
  rw [build]
  by_cases hmalformed : d.malformed = []
  · have hunknown : (d.unknownStages c).isEmpty = false := by
      rw [List.isEmpty_eq_false_iff, PipelineDefinition.unknownStages_eq_map, Ne,
        List.map_eq_nil_iff]
      exact fun hnil => h ⟨hnil, hmalformed⟩
    simp only [PipelineDefinition.transformations_of_malformed_eq_nil hmalformed, hunknown,
      PipelineDefinition.argumentProblems_eq_map, hmalformed, List.map_nil, List.append_nil]
    rfl
  · have hproblems : d.argumentProblems.isEmpty = false := by
      rw [List.isEmpty_eq_false_iff, PipelineDefinition.argumentProblems_eq_map, Ne,
        List.map_eq_nil_iff]
      exact hmalformed
    rw [PipelineDefinition.transformations, hproblems]
    rfl

/-- Without defects, looking up the names that were checked gives every stage. -/
theorem build_of_no_defects (hunregistered : d.unregistered c = [])
    (hmalformed : d.malformed = []) :
    ∃ p, c.build d = .ok p ∧ c.pipeline d.readable = .ok p ∧
      List.Forall₂ c.Binds d.stages p.stages := by
  obtain ⟨stages, hstages, hbinds⟩ := exists_stages
    (PipelineDefinition.forall₂_readable (PipelineDefinition.malformed_eq_nil_iff.1 hmalformed))
    (PipelineDefinition.unregistered_eq_nil_iff.1 hunregistered)
  have hpipeline : c.pipeline d.readable = .ok ⟨stages⟩ := pipeline_eq_ok_iff.2 hstages
  refine ⟨⟨stages⟩, ?_, hpipeline, hbinds⟩
  rw [build, PipelineDefinition.transformations_of_malformed_eq_nil hmalformed]
  simp only [PipelineDefinition.unknownStages_eq_map, hunregistered, List.map_nil,
    List.isEmpty_nil, if_true, hpipeline]

theorem Binds.name_eq {definition : StageDefinition} {stage : Stage}
    (h : c.Binds definition stage) : stage.name = definition.stage := by
  obtain ⟨operation, args, -, -, hname, -⟩ := h
  exact hname

theorem names_of_binds {definitions : List StageDefinition} {stages : List Stage}
    (h : List.Forall₂ c.Binds definitions stages) :
    stages.map Stage.name = definitions.map StageDefinition.stage := by
  induction h with
  | nil => rfl
  | cons hstage _ ih => rw [List.map_cons, List.map_cons, hstage.name_eq, ih]

theorem names_of_build {p : Pipeline} (h : c.build d = .ok p) :
    p.names = d.stages.map StageDefinition.stage := by
  by_cases hsound : d.unregistered c = [] ∧ d.malformed = []
  · obtain ⟨built, hbuild, -, hbinds⟩ := build_of_no_defects hsound.1 hsound.2
    rw [hbuild] at h
    obtain rfl := Except.ok.inj h
    exact names_of_binds hbinds
  · rw [build_of_defects hsound] at h
    cases h

theorem exists_transformations_of_build {p : Pipeline} (h : c.build d = .ok p) :
    ∃ ts, d.transformations = .ok ts ∧ c.pipeline ts = .ok p := by
  rw [build] at h
  cases hts : d.transformations with
  | error failure =>
    rw [hts] at h
    cases h
  | ok ts =>
    rw [hts] at h
    simp only at h
    split at h
    · exact ⟨ts, rfl, h⟩
    · cases h

/-- A pipeline is built exactly if all names are known and all arguments can be read. It then has
the stages of the definition in order, each bound to its arguments, and is the pipeline of the
transformations that the definition gives, where no name is unknown any more. Otherwise every defect
is reported, and nothing else: unknown names first, then broken arguments, each in order. -/
theorem build_reports (c : Catalogue) (d : PipelineDefinition) :
    ((∃ p, c.build d = .ok p) ↔ ∀ stage ∈ d.stages,
      stage.stage ∈ c.operations.map Prod.fst ∧
        ∃ args, Arguments.ofJson stage.args = .ok args) ∧
    match c.build d with
    | .ok p => List.Forall₂ c.Binds d.stages p.stages ∧
        ∃ ts, d.transformations = .ok ts ∧ c.pipeline ts = .ok p
    | .error failure => failure = .plain (.configuration (some "pipeline"))
        (((d.unregistered c).map fun (stage, index) =>
            "stage " ++ Numeral.ofNat index ++ ": unknown stage '" ++ stage.stage ++ "'") ++
          d.malformed.map fun ((stage, index), fault) =>
            "stage " ++ Numeral.ofNat index ++ " '" ++ stage.stage ++ "': " ++ fault.message)
        none := by
  have hsound : (∀ stage ∈ d.stages, stage.stage ∈ c.operations.map Prod.fst ∧
      ∃ args, Arguments.ofJson stage.args = .ok args) ↔
      d.unregistered c = [] ∧ d.malformed = [] := by
    rw [PipelineDefinition.unregistered_eq_nil_iff, PipelineDefinition.malformed_eq_nil_iff]
    exact forall₂_and
  rw [hsound]
  by_cases h : d.unregistered c = [] ∧ d.malformed = []
  · obtain ⟨p, hbuild, hpipeline, hbinds⟩ := build_of_no_defects h.1 h.2
    rw [hbuild]
    exact ⟨iff_of_true ⟨p, rfl⟩ h, hbinds, d.readable,
      PipelineDefinition.transformations_of_malformed_eq_nil h.2, hpipeline⟩
  · rw [build_of_defects h, PipelineDefinition.unknownStages_eq_map,
      PipelineDefinition.argumentProblems_eq_map]
    exact ⟨iff_of_false nofun h, rfl⟩

end Catalogue

end Gleaner
