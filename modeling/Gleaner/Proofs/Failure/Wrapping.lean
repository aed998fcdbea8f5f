import Gleaner.Problem
import Gleaner.Proofs.Failure.Messages

/-!
# Behind the wrappers

A failure comes wrapped in a stage, and where a stage runs a pipeline of its own, in several. What
counts is the failure within all wrappers. There are two ways to it. To take a failure apart gives
it at once. To ask a failure for its stage index, and to go on to what is right behind it as long as
there is one, gives it step by step; and since what is behind a failure that is no wrapper is its
cause, these steps must stop exactly at the first failure without an index.

Both ways end at the same failure. Kind, origin, messages, arguments and data are reported of it,
and the exit code is that of its kind, so wrapping a failure once more changes none of them.
-/

namespace Gleaner

namespace Failure

/-! ### The failure within -/

theorem kind_unwrapped_ne_stage (f : Failure) : f.unwrapped.kind ≠ .stage := by
  fun_induction Failure.unwrapped f with
  | case1 site messages cause => cases site <;> exact nofun
  | case2 index inner ih => exact ih

theorem unwrapped_of_kind_ne_stage {f : Failure} (h : f.kind ≠ .stage) : f.unwrapped = f := by
  cases f with
  | plain site messages cause => rfl
  | stage index inner => exact absurd rfl h

theorem unwrapped_unwrapped (f : Failure) : f.unwrapped.unwrapped = f.unwrapped :=
  unwrapped_of_kind_ne_stage f.kind_unwrapped_ne_stage

theorem messages_unwrapped (f : Failure) : f.unwrapped.messages = f.messages := by
  fun_induction Failure.unwrapped f with
  | case1 site messages cause => rfl
  | case2 index inner ih => exact ih

theorem origin?_unwrapped (f : Failure) : f.unwrapped.origin? = f.origin? := by
  fun_induction Failure.unwrapped f with
  | case1 site messages cause => rfl
  | case2 index inner ih => exact ih

/-! ### Wrapping -/

/-- A failure wrapped in stages, the index of the outermost first. -/
def inStages (indices : List Nat) (f : Failure) : Failure :=
  indices.foldr stage f

theorem unwrapped_inStages (indices : List Nat) (f : Failure) :
    (f.inStages indices).unwrapped = f.unwrapped := by
  induction indices with
  | nil => rfl
  | cons index rest ih => exact ih

theorem messages_inStages (indices : List Nat) (f : Failure) :
    (f.inStages indices).messages = f.messages := by
  rw [← messages_unwrapped, unwrapped_inStages, messages_unwrapped]

theorem exists_inStages (f : Failure) :
    ∃ indices, f = f.unwrapped.inStages indices ∧ f.stageIndex? = indices.head? := by
  fun_induction Failure.unwrapped f with
  | case1 site messages cause => exact ⟨[], rfl, rfl⟩
  | case2 index inner ih =>
    obtain ⟨indices, hinner, -⟩ := ih
    exact ⟨index :: indices, congrArg (stage index) hinner, rfl⟩

/-! ### Step by step -/

/-- The first failure without a stage index, on the way from each failure to the one behind it. -/
def stageCause (f : Failure) : Failure :=
  match f.stageIndex? with
  | none => f
  | some _ =>
    match _ : f.prior? with
    | some prior => prior.stageCause
    | none => f
termination_by f.chain.length
decreasing_by
  rename_i hprior
  rw [chain_eq f, hprior]
  exact Nat.lt_succ_self _

/-- A wrapper is left for the failure within, and nothing else is left at all. -/
theorem stageCause_eq_unwrapped (f : Failure) : f.stageCause = f.unwrapped := by
  fun_induction Failure.unwrapped f with
  | case1 site messages cause => rw [stageCause, stageIndex?]
  | case2 index inner ih =>
    have hbehind : (stage index inner).stageCause = inner.stageCause := by
      rw [stageCause]
      rfl
    rw [hbehind, ih]

end Failure

/-! ### What is reported -/

theorem FailureKind.exitCode_eq_stage_iff (kind : FailureKind) :
    kind.exitCode = 24 ↔ kind = .stage := by
  cases kind <;> simp [exitCode]

namespace Problem

theorem exitCode_inStages (indices : List Nat) (f : Failure) :
    (engine (f.inStages indices)).exitCode = (engine f).exitCode := by
  simp only [exitCode, Failure.unwrapped_inStages]

theorem exitCode_ne_stage (p : Problem) : p.exitCode ≠ 24 := by
  cases p with
  | engine f =>
    intro hcode
    exact f.kind_unwrapped_ne_stage ((FailureKind.exitCode_eq_stage_iff _).1 hcode)
  | _ => simp [exitCode]

end Problem

namespace Failure

/-- Going from wrapper to wrapper ends at the failure within all wrappers, and nowhere else: the
failure is that one in its stages. It is never a wrapper, has the messages and the origin of the
failure, and gives its exit code, which is never that of a stage: only a wrapper would have that
one. The report for machines is its report, with the index of the outermost stage. In further stages
a failure keeps its messages and its exit code. -/
theorem stageCause_reported (f : Failure) :
    f.stageCause = f.unwrapped ∧
    (∃ indices, f = f.stageCause.inStages indices ∧ f.stageIndex? = indices.head?) ∧
    f.stageCause.kind ≠ .stage ∧
    f.stageCause.messages = f.messages ∧
    f.stageCause.origin? = f.origin? ∧
    (Problem.engine f).exitCode = f.stageCause.kind.exitCode ∧
    (f.stageCause.kind.exitCode = match f.stageCause.kind with
      | .extraction => 20
      | .transformation => 21
      | .invalidData | .invalidType => 22
      | .configuration => 23
      | .stage => 24
      | .notFound | .invalidInstance => 25) ∧
    (∀ kind : FailureKind, kind.exitCode = 24 ↔ kind = .stage) ∧
    (∀ p : Problem, p.exitCode ≠ 24) ∧
    f.stageReport =
      { kind := f.stageCause.kind
        origin := f.stageCause.origin?
        stageIndex := f.stageIndex?
        messages := f.stageCause.messages
        arguments := f.stageCause.arguments?.map Arguments.toJson
        data := f.stageCause.data?.map Subject.toJson } ∧
    ∀ indices,
      (f.inStages indices).stageCause = f.stageCause ∧
      (f.inStages indices).messages = f.messages ∧
      (Problem.engine (f.inStages indices)).exitCode = (Problem.engine f).exitCode := by
  rw [stageCause_eq_unwrapped]
  refine ⟨rfl, f.exists_inStages, f.kind_unwrapped_ne_stage, f.messages_unwrapped,
    f.origin?_unwrapped, rfl, ?_, FailureKind.exitCode_eq_stage_iff, Problem.exitCode_ne_stage, rfl,
    ?_⟩
  · cases f.unwrapped.kind <;> rfl
  · intro indices
    refine ⟨?_, messages_inStages indices f, Problem.exitCode_inStages indices f⟩
    rw [stageCause_eq_unwrapped, unwrapped_inStages]

end Failure

end Gleaner
