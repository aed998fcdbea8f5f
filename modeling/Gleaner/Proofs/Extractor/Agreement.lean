import Gleaner.Proofs.Pipeline.Building
import Gleaner.Proofs.Pipeline.Fold
import Gleaner.Proofs.Resolver.Refusal

/-!
# The ways to extract agree

A value is extracted in three ways. The command line resolves a path and steps a pipeline that it
built before. An extractor looks its transformations up, unless there are none, and processes what
it resolved. A mapping does this for each field and names the field that failed.

For the transformations of a definition that builds, all three are one computation: resolving, then
running the pipeline. They differ only in the failure. The command line keeps the wrapper that names
the stage, the extractor takes all wrappers off, and the mapping adds a message to what is left.
A failure to resolve has no wrapper, so nothing is taken off it; and since an exit code only looks
behind the wrappers, the three ways have the same one.
-/

namespace Gleaner

/-! ### Wrappers, messages and exit codes -/

namespace Failure

theorem kind_withMessage (f : Failure) (message : String) :
    (f.withMessage message).kind = f.kind := by
  cases f <;> rfl

theorem origin?_withMessage (f : Failure) (message : String) :
    (f.withMessage message).origin? = f.origin? := by
  fun_induction Failure.origin? f with
  | case1 site messages cause => rfl
  | case2 index inner ih => exact ih

theorem unwrapped_withMessage (f : Failure) (message : String) :
    (f.withMessage message).unwrapped = f.unwrapped.withMessage message := by
  fun_induction Failure.unwrapped f with
  | case1 site messages cause => rfl
  | case2 index inner ih => exact ih

end Failure

namespace Problem

theorem exitCode_unwrapped (f : Failure) : (engine f.unwrapped).exitCode = (engine f).exitCode :=
  congrArg (fun f => f.kind.exitCode) f.unwrapped_unwrapped

theorem exitCode_withMessage (f : Failure) (message : String) :
    (engine (f.withMessage message)).exitCode = (engine f).exitCode := by
  rw [exitCode, exitCode, Failure.unwrapped_withMessage, Failure.kind_withMessage]

end Problem

variable {x : Extractor} {p : Pipeline} {subject value : Subject} {path : String}
  {context : Context} {failure : Failure} {ts : List Transformation}

/-! ### The command line -/

namespace CommandLine

/-- What the command line extracts: the value at a path, stepped through a pipeline. -/
def produce (x : Extractor) (p : Pipeline) (subject : Subject) (path : String)
    (context : Context) : Except Failure Subject := do
  let value ← x.resolver.resolve subject (.path path) context
  stepThrough p value context

theorem produce_eq : produce x p subject path context =
    x.resolver.resolve subject (.path path) context >>= fun value => p.run value context := by
  rw [produce]
  cases x.resolver.resolve subject (.path path) context with
  | error failure => rfl
  | ok value => exact finish_stepToEnd _ context

theorem extractValue_of_ok (h : produce x p subject path context = .ok value)
    (w : Output.Writer) : extractValue w x subject path (some p) context =
      .after (w.info (runningRemark p)) (writeValue w path value) := by
  obtain ⟨resolved, hresolved, hvalue⟩ := Traversal.bind_eq_ok_iff.1 h
  rw [extractValue, hresolved]
  simp only [hvalue]

theorem problem_extractValue_of_error (h : produce x p subject path context = .error failure)
    (w : Output.Writer) :
    (extractValue w x subject path (some p) context).problem = some (.engine failure) := by
  obtain hresolve | ⟨resolved, hresolved, hfailure⟩ := Traversal.bind_eq_error_iff.1 h
  · rw [extractValue, hresolve]
    rfl
  · rw [extractValue, hresolved]
    simp only [hfailure]
    rfl

end CommandLine

/-! ### The extractor and the mapping -/

namespace Extractor

theorem extract_eq (x : Extractor) (subject : Subject) (accessor : Accessor)
    (ts : List Transformation) (context : Context) :
    x.extract subject accessor ts context =
      x.resolver.resolve subject accessor context >>= fun value =>
        x.catalogue.pipeline ts >>= fun p => p.process value context := by
  rw [extract]
  cases x.resolver.resolve subject accessor context with
  | error failure => rfl
  | ok value =>
    cases ts with
    | nil =>
      have hprocess : Pipeline.process ⟨[]⟩ value context = .ok value := by
        rw [Pipeline.process, Pipeline.run_eq_fold]
        rfl
      exact hprocess.symm
    | cons t rest => rfl

theorem extract_eq_process (h : x.catalogue.pipeline ts = .ok p) {accessor : Accessor} :
    x.extract subject accessor ts context =
      x.resolver.resolve subject accessor context >>= fun value => p.process value context := by
  rw [extract_eq, h]
  rfl

/-- An extraction fails while its accessor is resolved, or else while its stages are looked up or
run. -/
theorem extract_eq_error_iff {accessor : Accessor} :
    x.extract subject accessor ts context = .error failure ↔
      x.resolver.resolve subject accessor context = .error failure ∨
      ∃ value, x.resolver.resolve subject accessor context = .ok value ∧
        (x.catalogue.pipeline ts = .error failure ∨
          ∃ p, x.catalogue.pipeline ts = .ok p ∧ p.process value context = .error failure) := by
  rw [extract_eq, Traversal.bind_eq_error_iff]
  simp only [Traversal.bind_eq_error_iff]

/-- The extractor takes the wrappers off, and nothing else. -/
theorem extract_eq_mapError (h : x.catalogue.pipeline ts = .ok p) (subject : Subject)
    (path : String) (context : Context) :
    x.extract subject (.path path) ts context =
      (CommandLine.produce x p subject path context).mapError Failure.unwrapped := by
  rw [extract_eq_process h, CommandLine.produce_eq]
  cases hresolve : x.resolver.resolve subject (.path path) context with
  | ok value => rfl
  | error failure =>
    have hkind : failure.kind ≠ .stage := by
      rw [Resolver.kind_of_resolve hresolve]
      exact nofun
    exact congrArg Except.error (Failure.unwrapped_of_kind_ne_stage hkind).symm

theorem extractFields_singleton (x : Extractor) (subject : Subject) (name : String)
    (rule : FieldRule) (context : Context) :
    x.extractFields subject [(name, rule)] context =
      match x.extract subject rule.accessor rule.transformations context with
      | .ok value => .ok (.map [(.text name, value)])
      | .error failure =>
        .error (failure.withMessage ("field '" ++ name ++ "' could not be produced")) := by
  rw [extractFields, List.mapM_cons]
  simp only [extractField]
  cases x.extract subject rule.accessor rule.transformations context <;> rfl

/-- For a definition that builds, the command line, the extractor and a mapping of one field yield
the same value. Where the command line fails, the extractor fails with what is behind the wrappers
of that failure, and the mapping with the same and one more message, of one kind and with one exit
code. -/
theorem extractions_agree (x : Extractor) {d : PipelineDefinition} {p : Pipeline}
    (h : x.catalogue.build d = .ok p) (subject : Subject) (path : String) (context : Context) :
    ∃ ts, d.transformations = .ok ts ∧
      (∀ value, CommandLine.produce x p subject path context = .ok value ↔
        x.extract subject (.path path) ts context = .ok value) ∧
      (∀ value, CommandLine.produce x p subject path context = .ok value →
        (∀ w, CommandLine.extractValue w x subject path (some p) context =
          .after (w.info (CommandLine.runningRemark p)) (CommandLine.writeValue w path value)) ∧
        ∀ name, x.extractFields subject [(name, ⟨.path path, ts⟩)] context =
          .ok (.map [(.text name, value)])) ∧
      ∀ failure, CommandLine.produce x p subject path context = .error failure →
        (∀ w, (CommandLine.extractValue w x subject path (some p) context).problem =
          some (.engine failure)) ∧
        x.extract subject (.path path) ts context = .error failure.unwrapped ∧
        (Problem.engine failure.unwrapped).exitCode = (Problem.engine failure).exitCode ∧
        ∀ name, ∃ inner,
          x.extractFields subject [(name, ⟨.path path, ts⟩)] context = .error inner ∧
            inner = failure.unwrapped.withMessage
              ("field '" ++ name ++ "' could not be produced") ∧
            inner.kind = failure.unwrapped.kind ∧
            (Problem.engine inner).exitCode = (Problem.engine failure).exitCode := by
  obtain ⟨ts, hts, hpipeline⟩ := Catalogue.exists_transformations_of_build h
  have hextract := extract_eq_mapError hpipeline subject path context
  refine ⟨ts, hts, fun value => ?_, fun value hvalue => ⟨?_, fun name => ?_⟩,
    fun failure hfailure => ⟨?_, ?_, Problem.exitCode_unwrapped failure, fun name => ?_⟩⟩
  · rw [hextract, Traversal.mapError_eq_ok_iff]
  · exact CommandLine.extractValue_of_ok hvalue
  · rw [extractFields_singleton]
    simp only [hextract, hvalue, Except.mapError]
  · exact CommandLine.problem_extractValue_of_error hfailure
  · rw [hextract, hfailure, Except.mapError]
  · refine ⟨_, ?_, rfl, Failure.kind_withMessage _ _, ?_⟩
    · rw [extractFields_singleton]
      simp only [hextract, hfailure, Except.mapError]
    · rw [Problem.exitCode_withMessage, Problem.exitCode_unwrapped]

theorem extractions_agree_on_null :
    let x := Extractor.standard ⟨32, .silent⟩
    let p : Pipeline := ⟨[(Operation.validator BuiltIn.required).bind "required" []]⟩
    let subject : Subject := .map [(.text "code", .null)]
    let refusal := (Failure.invalidData "required" .null ["value is required"]).withArguments []
    x.catalogue.build ⟨[⟨"required", .null⟩]⟩ = .ok p ∧
      CommandLine.produce x p subject "code" .empty = .error (.stage 0 refusal) ∧
      x.extract subject (.path "code") [⟨"required", []⟩] .empty = .error refusal ∧
      ∃ inner, x.extractFields subject [("code", ⟨.path "code", [⟨"required", []⟩]⟩)] .empty =
          .error inner ∧
        inner = refusal.withMessage "field 'code' could not be produced" ∧
        (Problem.engine inner).exitCode = 22 := by
  intro x p subject refusal
  have hbuild : x.catalogue.build ⟨[⟨"required", .null⟩]⟩ = .ok p := rfl
  obtain ⟨ts, hts, -, -, hfails⟩ := extractions_agree x hbuild subject "code" .empty
  obtain rfl : [⟨"required", []⟩] = ts := Except.ok.inj hts
  have hresolve : x.resolver.resolve subject (.path "code") .empty = .ok .null := rfl
  have hproduce : CommandLine.produce x p subject "code" .empty = .error (.stage 0 refusal) := by
    rw [CommandLine.produce_eq, hresolve]
    exact p.run_eq_fold .null .empty
  obtain ⟨-, hextract, -, hfields⟩ := hfails _ hproduce
  obtain ⟨inner, hinner, hmessage, -, hcode⟩ := hfields "code"
  exact ⟨hbuild, hproduce, hextract, inner, hinner, hmessage, hcode⟩

end Extractor

end Gleaner
