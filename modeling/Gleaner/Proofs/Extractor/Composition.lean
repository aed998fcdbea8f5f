import Gleaner.Proofs.Extractor.Agreement

/-!
# Pipelines and extractions in two parts

A pipeline can be cut anywhere. What comes before the cut is run first, and what comes behind it is
run on the value that this yields; the two together do what the whole pipeline does, and they fail
with the same failure. Only the index that a wrapper names depends on where the counting starts: in
the whole pipeline the stages behind the cut stand behind those before it.

Processing takes the wrappers off, so nothing of the index is left. An extraction resolves first and
processes then, and the identity resolves to the subject itself; so an extraction can be cut between
any two of its transformations. Since all names are looked up before the first stage is applied,
this holds where no name is unknown.
-/

namespace Gleaner

/-! ### Counting from another index -/

/-- A failure whose outermost wrapper counts some more stages before its own. -/
def Failure.shifted (count : Nat) : Failure → Failure
  | plain site messages cause => plain site messages cause
  | stage index inner => stage (index + count) inner

theorem Failure.unwrapped_shifted (count : Nat) (f : Failure) :
    (f.shifted count).unwrapped = f.unwrapped := by
  cases f <;> rfl

theorem Stage.fold_shifted (context : Context) (index count : Nat) (stages : List Stage)
    (payload : Subject) :
    fold context (index + count) stages payload =
      (fold context index stages payload).mapError (Failure.shifted count) := by
  induction stages generalizing index payload with
  | nil => rfl
  | cons stage rest ih =>
    rw [fold, fold]
    cases stage.apply payload context with
    | error failure => rfl
    | ok next =>
      have hnext : index + count + 1 = index + 1 + count := by omega
      simp only [hnext, ih]

namespace Pipeline

variable (p q : Pipeline) (payload : Subject) (context : Context)

theorem run_addStages : (p.addStages q.stages).run payload context =
    p.run payload context >>= fun value =>
      (q.run value context).mapError (Failure.shifted p.stages.length) := by
  rw [run_eq_fold, run_eq_fold, addStages, Stage.fold_append]
  cases Stage.fold context 0 p.stages payload with
  | error failure => rfl
  | ok value =>
    show Stage.fold context (0 + p.stages.length) q.stages value = (q.run value context).mapError _
    rw [Stage.fold_shifted, run_eq_fold]

theorem process_addStages : (p.addStages q.stages).process payload context =
    p.process payload context >>= fun value => q.process value context := by
  rw [process, process, run_addStages]
  cases p.run payload context with
  | error failure => rfl
  | ok value =>
    show ((q.run value context).mapError _).mapError _ = (q.run value context).mapError _
    cases q.run value context with
    | error failure => exact congrArg Except.error (failure.unwrapped_shifted _)
    | ok result => rfl

end Pipeline

theorem Catalogue.pipeline_append {c : Catalogue} {first second : List Transformation}
    {p q : Pipeline} (hp : c.pipeline first = .ok p) (hq : c.pipeline second = .ok q) :
    c.pipeline (first ++ second) = .ok (p.addStages q.stages) := by
  rw [pipeline_eq_ok_iff] at hp hq ⊢
  exact List.rel_append hp hq

theorem Resolver.resolve_identity (r : Resolver) (subject : Subject) (context : Context) :
    r.resolve subject .identity context = .ok subject := by
  have hsegments : Path.segments "" = [] := by decide
  rw [resolve, Accessor.identity, resolveAccessor, resolveChain, hsegments]
  rfl

namespace Extractor

/-- A pipeline that is cut in two does what its parts do one after the other, with the same failure
if it is processed, and with the index of the second part counted on if it is run. So does an
extraction whose names are all known: the second part takes what the first yields as it is. -/
theorem extractions_compose (x : Extractor) (context : Context) :
    (∀ (p q : Pipeline) (payload : Subject),
      (p.addStages q.stages).process payload context =
        p.process payload context >>= fun value => q.process value context) ∧
    (∀ (p q : Pipeline) (payload : Subject),
      (p.addStages q.stages).run payload context =
        p.run payload context >>= fun value =>
          (q.run value context).mapError (Failure.shifted p.stages.length)) ∧
    ∀ (subject : Subject) (accessor : Accessor) (first second : List Transformation),
      (∀ t ∈ first ++ second, x.catalogue.contains t.name = true) →
        x.extract subject accessor (first ++ second) context =
          x.extract subject accessor first context >>= fun value =>
            x.extract value .identity second context := by
  refine ⟨fun p q payload => p.process_addStages q payload context,
    fun p q payload => p.run_addStages q payload context, ?_⟩
  intro subject accessor first second hknown
  rw [List.forall_mem_append] at hknown
  obtain ⟨p, hp⟩ := Catalogue.exists_pipeline_iff.2 hknown.1
  obtain ⟨q, hq⟩ := Catalogue.exists_pipeline_iff.2 hknown.2
  rw [extract_eq_process (Catalogue.pipeline_append hp hq), extract_eq_process hp, bind_assoc]
  apply bind_congr
  intro value
  rw [Pipeline.process_addStages]
  apply bind_congr
  intro result
  rw [extract_eq_process hq, Resolver.resolve_identity]
  rfl

theorem extractions_compose_on_null :
    let x := Extractor.standard ⟨32, .silent⟩
    let subject : Subject := .map [(.text "code", .null)]
    let first : List Transformation := [⟨"compact", []⟩]
    let second : List Transformation := [⟨"required", []⟩]
    let refusal := (Failure.invalidData "required" .null ["value is required"]).withArguments []
    (∀ t ∈ first ++ second, x.catalogue.contains t.name = true) ∧
      (x.extract subject (.path "code") (first ++ second) .empty =
        x.extract subject (.path "code") first .empty >>= fun value =>
          x.extract value .identity second .empty) ∧
      x.extract .null .identity second .empty = .error refusal := by
  intro x subject first second refusal
  have hknown : ∀ t ∈ first ++ second, x.catalogue.contains t.name = true := by
    simp only [first, second, List.cons_append, List.nil_append, List.forall_mem_cons]
    exact ⟨rfl, rfl, nofun⟩
  obtain ⟨-, -, hextract⟩ := extractions_compose x .empty
  have hsecond : x.catalogue.pipeline second =
      .ok ⟨[(Operation.validator BuiltIn.required).bind "required" []]⟩ := rfl
  refine ⟨hknown, hextract subject (.path "code") first second hknown, ?_⟩
  rw [extract_eq_process hsecond, Resolver.resolve_identity]
  show Pipeline.process _ .null .empty = _
  rw [Pipeline.process, Pipeline.run_eq_fold]
  rfl

end Extractor

end Gleaner
