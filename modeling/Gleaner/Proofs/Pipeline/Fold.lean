import Gleaner.CommandLine.Extraction
import Gleaner.Proofs.Failure.Wrapping
import Gleaner.Proofs.Pipeline.Invariant
import Gleaner.Proofs.Traversal

/-!
# One reference for all ways to execute a pipeline

The reference is a fold: the stages are applied from left to right until one fails, and its failure
is wrapped with its index. A run that is finished in one go, a run that is stepped for a while and
then finished, and a run that is stepped to its end all have the result of the fold, since finishing
only looks at what a step leaves behind.
-/

namespace Gleaner

/-! ### The reference -/

def Stage.fold (context : Context) : Nat → List Stage → Subject → Except Failure Subject
  | _, [], payload => .ok payload
  | index, stage :: rest, payload =>
    match stage.apply payload context with
    | .ok next => fold context (index + 1) rest next
    | .error failure => .error (.stage index failure)

namespace Stage

variable (context : Context)

theorem fold_ok_iff (index : Nat) (stages : List Stage) (payload value : Subject) :
    fold context index stages payload = .ok value ↔
      stages.foldlM (fun v stage => stage.apply v context) payload = .ok value := by
  induction stages generalizing index payload with
  | nil => rfl
  | cons stage rest ih =>
    rw [fold, List.foldlM_cons]
    cases stage.apply payload context with
    | ok next => exact ih (index + 1) next
    | error failure => exact ⟨nofun, nofun⟩

theorem fold_append (index : Nat) (first second : List Stage) (payload : Subject) :
    fold context index (first ++ second) payload =
      match fold context index first payload with
      | .ok value => fold context (index + first.length) second value
      | .error failure => .error failure := by
  induction first generalizing index payload with
  | nil => rfl
  | cons stage rest ih =>
    rw [List.cons_append, fold, fold]
    cases stage.apply payload context with
    | ok next =>
      have hlength : index + (stage :: rest).length = index + 1 + rest.length := by
        rw [List.length_cons, Nat.add_assoc, Nat.add_comm 1]
      simp only [ih, hlength]
    | error failure => rfl

/-- A failure of the fold is that of a stage, which refuses what the stages before it yield. -/
theorem exists_of_fold_error {index : Nat} {stages : List Stage} {payload : Subject}
    {failure : Failure} (hfold : fold context index stages payload = .error failure) :
    ∃ (n : Nat) (h : n < stages.length) (value : Subject) (inner : Failure),
      (stages.take n).foldlM (fun v stage => stage.apply v context) payload = .ok value ∧
        stages[n].apply value context = .error inner ∧ failure = .stage (index + n) inner := by
  induction stages generalizing index payload with
  | nil => cases hfold
  | cons stage rest ih =>
    rw [fold] at hfold
    cases hresult : stage.apply payload context with
    | error inner =>
      rw [hresult] at hfold
      cases hfold
      exact ⟨0, Nat.succ_pos _, payload, inner, rfl, hresult, rfl⟩
    | ok next =>
      rw [hresult] at hfold
      obtain ⟨n, hn, value, inner, hvalue, hinner, hfailure⟩ := ih hfold
      refine ⟨n + 1, Nat.succ_lt_succ hn, value, inner, ?_, hinner, ?_⟩
      · rw [List.take_succ_cons, List.foldlM_cons, hresult]
        exact hvalue
      · rw [hfailure, Nat.add_right_comm, Nat.add_assoc]

theorem fold_error_iff (index : Nat) (stages : List Stage) (payload : Subject)
    (failure : Failure) :
    fold context index stages payload = .error failure ↔
      ∃ (n : Nat) (h : n < stages.length) (value : Subject) (inner : Failure),
        (stages.take n).foldlM (fun v stage => stage.apply v context) payload = .ok value ∧
          stages[n].apply value context = .error inner ∧
            failure = .stage (index + n) inner := by
  refine ⟨exists_of_fold_error context, ?_⟩
  rintro ⟨n, hn, value, inner, hvalue, hinner, rfl⟩
  have hlength : (stages.take n).length = n := List.length_take_of_le (Nat.le_of_lt hn)
  have hsplit : stages = stages.take n ++ stages[n] :: stages.drop (n + 1) := by
    rw [List.getElem_cons_drop, List.take_append_drop]
  rw [hsplit, fold_append, (fold_ok_iff context index _ payload value).2 hvalue, hlength]
  simp only [fold, hinner]

end Stage

namespace Run

variable {run : Run} {index : Nat} {value : Subject} (context : Context)

/-! ### Finishing a run -/

theorem finish_of_isTerminal (h : run.state.isTerminal = true) :
    run.finish context =
      match run.value with
      | some value => .ok value
      | none => .error (.configuration "pipeline run produced no value") := by
  rw [finish]
  exact dif_pos h

theorem finish_of_not_isTerminal (h : run.state.isTerminal = false) :
    run.finish context =
      match (run.step context).2 with
      | .error failure => .error failure
      | .ok _ => (run.step context).1.finish context := by
  have hgoes : ¬ run.state.isTerminal = true := by
    rw [h]
    exact Bool.false_ne_true
  rw [finish]
  exact dif_neg hgoes

/-- A step that succeeds changes nothing about where the run ends. -/
theorem finish_step {state : RunState} (h : (run.step context).2 = .ok state) :
    (run.step context).1.finish context = run.finish context := by
  cases hend : run.state.isTerminal with
  | false => rw [run.finish_of_not_isTerminal context hend, h]
  | true => rw [(step_of_isTerminal hend context).1]

theorem finish_after (run : Run) (count : Nat)
    (h : ∀ n < count, ∃ state, run.answer (fun _ => context) n = .ok state) :
    (run.after (fun _ => context) count).finish context = run.finish context := by
  induction count with
  | zero => rfl
  | succ count ih =>
    obtain ⟨state, hstate⟩ := h count (Nat.lt_succ_self count)
    exact (finish_step context hstate).trans (ih fun n hn => h n (Nat.lt_succ_of_lt hn))

/-- From a stage on, finishing a run is folding the stages that are left. -/
theorem finish_eq_fold (hnext : run.state.next? = some index) (hle : index ≤ run.stages.length)
    (hvalue : run.value = some value) :
    run.finish context = Stage.fold context index (run.stages.drop index) value := by
  -- The induction is on the stages that are left: a step takes the first of them away.
  have hgoes := RunState.isTerminal_eq_false_iff.2 ⟨index, hnext⟩
  induction hleft : run.stages.length - index generalizing run index value with
  | zero =>
    have hlast : run.stages.length ≤ index := by omega
    rw [run.finish_of_not_isTerminal context hgoes,
      (step_of_length_le hnext hlast context).1, List.drop_of_length_le hlast, Stage.fold]
    simp only
    rw [finish_of_isTerminal context rfl, hvalue]
  | succ left ih =>
    have hlt : index < run.stages.length := by omega
    rw [run.finish_of_not_isTerminal context hgoes,
      (step_of_lt hnext hlt context).1, hvalue, List.drop_eq_getElem_cons hlt, Stage.fold,
      Option.getD_some]
    cases run.stages[index].apply value context with
    | error failure => rfl
    | ok next =>
      simp only [settled, Move.settle, RunState.past]
      by_cases hlast : index + 1 = run.stages.length
      · rw [if_pos hlast, finish_of_isTerminal context rfl, List.drop_of_length_le (by omega)]
        rfl
      · rw [if_neg hlast]
        exact ih rfl (Nat.succ_le_of_lt hlt) rfl rfl (by simp only; omega)

/-! ### Runs that have failed -/

/-- A run that has not ended goes on, or fails with the failure of the stage that it applies. -/
theorem step_of_not_isTerminal (h : run.state.isTerminal = false) :
    (∃ state, (run.step context).2 = .ok state ∧
        ∀ index, (run.step context).1.state ≠ .failed index) ∨
      ∃ index inner, (run.step context).2 = .error (.stage index inner) ∧
        (run.step context).1.state = .failed index := by
  obtain ⟨index, hnext⟩ := RunState.isTerminal_eq_false_iff.1 h
  obtain hlt | hle := Nat.lt_or_ge index run.stages.length
  · rw [(step_of_lt hnext hlt context).1]
    cases run.stages[index].apply (run.value.getD .null) context with
    | error inner => exact .inr ⟨index, inner, rfl, rfl⟩
    | ok next => exact .inl ⟨_, rfl, RunState.past_ne_failed _ _⟩
  · rw [(step_of_length_le hnext hle context).1]
    refine .inl ⟨_, rfl, ?_⟩
    intro n hfailed
    cases hfailed

theorem step_error_iff (run : Run) (context : Context) :
    (∃ failure, (run.step context).2 = .error failure) ↔
      ∃ index, (run.step context).1.state = .failed index := by
  cases hend : run.state.isTerminal with
  | true =>
    obtain ⟨stages, state, value⟩ := run
    cases state with
    | ready => cases hend
    | running index => cases hend
    | succeeded => exact ⟨nofun, nofun⟩
    | failed index => exact ⟨fun _ => ⟨index, rfl⟩, fun _ => ⟨_, rfl⟩⟩
  | false =>
    obtain ⟨state, hanswer, hstate⟩ | ⟨index, inner, hanswer, hstate⟩ :=
      step_of_not_isTerminal context hend
    · rw [hanswer]
      exact ⟨nofun, fun ⟨index, hfailed⟩ => absurd hfailed (hstate index)⟩
    · exact ⟨fun _ => ⟨index, hstate⟩, fun _ => ⟨_, hanswer⟩⟩

theorem failed_after_iff (p : Pipeline) (payload : Subject) (contexts : Nat → Context)
    (count : Nat) :
    (∃ index, ((start p payload).after contexts count).state = .failed index) ↔
      ∃ n < count, ∃ failure, (start p payload).answer contexts n = .error failure := by
  induction count with
  | zero => exact ⟨nofun, nofun⟩
  | succ count ih =>
    refine (step_error_iff _ (contexts count)).symm.trans ⟨?_, ?_⟩
    · intro herror
      exact ⟨count, Nat.lt_succ_self count, herror⟩
    · rintro ⟨n, hn, herror⟩
      obtain hlt | rfl := Nat.lt_or_eq_of_le (Nat.le_of_lt_succ hn)
      · obtain ⟨index, hindex⟩ := ih.2 ⟨n, hlt, herror⟩
        rw [step, hindex]
        exact ⟨_, rfl⟩
      · exact herror

/-- Of a lawful run, only one that has failed has no value to finish with. -/
theorem Lawful.finish_no_value_iff {stages : List Stage} {contexts : Nat → Context}
    {payload : Subject} {count : Nat} (h : run.Lawful stages contexts payload count) :
    run.finish context = .error (.configuration "pipeline run produced no value") ↔
      ∃ index, run.state = .failed index := by
  obtain hend | ⟨hnext, -, hle, value, hvalue, -⟩ := h.ended_or_holds
  · rw [finish_of_isTerminal context hend]
    obtain ⟨hstate, value, hvalue⟩ | ⟨hfailed, hvalue⟩ := h.holds_or_failed hend
    · rw [hvalue, hstate]
      exact ⟨nofun, nofun⟩
    · rw [hvalue]
      exact ⟨fun _ => hfailed, fun _ => rfl⟩
  · rw [finish_eq_fold context hnext (by rw [h.1]; exact hle) hvalue]
    constructor
    · intro herror
      obtain ⟨_, _, _, _, _, _, hfailure⟩ := Stage.exists_of_fold_error context herror
      cases hfailure
    · rintro ⟨index, hindex⟩
      rw [hindex] at hnext
      cases hnext

/-! ### The applications of a finished run -/

theorem after_step (run : Run) (count : Nat) :
    (run.step context).1.after (fun _ => context) count =
      run.after (fun _ => context) (count + 1) := by
  induction count with
  | zero => rfl
  | succ count ih => exact congrArg (fun run => (step run context).1) ih

theorem applications_step (run : Run) (count : Nat) :
    run.applications (fun _ => context) (count + 1) =
      (run.application? context).toList ++
        (run.step context).1.applications (fun _ => context) count := by
  induction count with
  | zero => simp only [applications, List.nil_append, List.append_nil, after]
  | succ count ih =>
    rw [applications, ih, List.append_assoc, applications, after_step]

/-- How the state of a run shows the result of finishing it. -/
def Shows (result : Except Failure Subject) (run : Run) : Prop :=
  match result with
  | .ok value => run.state.isTerminal = true ∧ run.value = some value
  | .error (.stage index _) => run.state = .failed index
  | .error (.plain _ _ _) => run.state.isTerminal = true

/-- Finishing a run is stepping it, as often as it takes. -/
theorem exists_after_shows (run : Run) :
    ∃ count, run.applicationsToEnd context = run.applications (fun _ => context) count ∧
      Shows (run.finish context) (run.after (fun _ => context) count) := by
  induction hleft : run.stepsLeft using Nat.strongRecOn generalizing run with
  | ind left ih =>
    cases hend : run.state.isTerminal with
    | true =>
      refine ⟨0, by rw [applicationsToEnd, dif_pos hend, applications], ?_⟩
      rw [finish_of_isTerminal context hend, after]
      cases hvalue : run.value with
      | none => exact hend
      | some value => exact ⟨hend, hvalue⟩
    | false =>
      rw [applicationsToEnd, dif_neg (by rw [hend]; exact Bool.false_ne_true),
        finish_of_not_isTerminal context hend]
      obtain ⟨state, hanswer, -⟩ | ⟨index, inner, hanswer, hfailed⟩ :=
        step_of_not_isTerminal context hend
      · obtain ⟨count, happs, hshows⟩ :=
          ih _ (hleft ▸ run.stepsLeft_step context hend) (run.step context).1 rfl
        rw [hanswer]
        refine ⟨count + 1, ?_, ?_⟩
        · rw [applications_step, ← happs]
        · rw [← after_step]
          exact hshows
      · rw [hanswer]
        exact ⟨1, by rw [applications_step, applications], hfailed⟩

theorem exists_finished (p : Pipeline) (payload : Subject) :
    ∃ run count, Shows ((start p payload).finish context) run ∧
      run.Lawful p.stages (fun _ => context) payload count ∧
      InOrder p.stages (fun _ => context) payload (run.state.applied p.stages.length)
        ((start p payload).applicationsToEnd context) := by
  obtain ⟨count, happs, hshows⟩ := exists_after_shows context (start p payload)
  refine ⟨_, count, hshows, lawful_after p (fun _ => context) payload count, ?_⟩
  rw [happs]
  exact inOrder_applications p (fun _ => context) payload count

theorem inOrder_of_finish_ok (p : Pipeline) {payload value : Subject}
    (h : (start p payload).finish context = .ok value) :
    InOrder p.stages (fun _ => context) payload p.stages.length
      ((start p payload).applicationsToEnd context) := by
  obtain ⟨run, count, hshows, hlawful, horder⟩ := exists_finished context p payload
  rw [h] at hshows
  obtain ⟨hstate, -⟩ | ⟨-, hnone⟩ := hlawful.holds_or_failed hshows.1
  · rw [hstate] at horder
    exact horder
  · have hvalue : run.value = some value := hshows.2
    rw [hnone] at hvalue
    cases hvalue

theorem inOrder_of_finish_error (p : Pipeline) {payload : Subject} {failure : Failure}
    (h : (start p payload).finish context = .error (.stage index failure)) :
    InOrder p.stages (fun _ => context) payload (index + 1)
      ((start p payload).applicationsToEnd context) := by
  obtain ⟨run, count, hshows, -, horder⟩ := exists_finished context p payload
  rw [h] at hshows
  have hstate : run.state = .failed index := hshows
  rw [hstate] at horder
  exact horder

end Run

theorem CommandLine.finish_stepToEnd (run : Run) (context : Context) :
    (stepToEnd run context >>= fun run => run.finish context) = run.finish context := by
  induction hleft : run.stepsLeft using Nat.strongRecOn generalizing run with
  | ind left ih =>
    cases hend : run.state.isTerminal with
    | true =>
      rw [stepToEnd, dif_pos hend]
      rfl
    | false =>
      rw [stepToEnd, dif_neg (by rw [hend]; exact Bool.false_ne_true),
        run.finish_of_not_isTerminal context hend]
      cases (run.step context).2 with
      | error failure => rfl
      | ok state => exact ih _ (hleft ▸ run.stepsLeft_step context hend) _ rfl

namespace Pipeline

theorem run_eq_fold (p : Pipeline) (payload : Subject) (context : Context) :
    p.run payload context = Stage.fold context 0 p.stages payload :=
  Run.finish_eq_fold context rfl (Nat.zero_le _) rfl

/-- Processing fails as the first stage that fails, without a wrapper. -/
theorem process_eq_error_iff (p : Pipeline) (payload : Subject) (context : Context)
    {failure : Failure} : p.process payload context = .error failure ↔
      ∃ (n : Nat) (h : n < p.stages.length) (value : Subject) (inner : Failure),
        (p.stages.take n).foldlM (fun v stage => stage.apply v context) payload = .ok value ∧
          p.stages[n].apply value context = .error inner ∧ failure = inner.unwrapped := by
  rw [process, Traversal.mapError_eq_error_iff, run_eq_fold]
  simp only [Stage.fold_error_iff]
  constructor
  · rintro ⟨_, ⟨n, h, value, inner, hvalue, hinner, rfl⟩, rfl⟩
    exact ⟨n, h, value, inner, hvalue, hinner, rfl⟩
  · rintro ⟨n, h, value, inner, hvalue, hinner, rfl⟩
    exact ⟨_, ⟨n, h, value, inner, hvalue, hinner, rfl⟩, rfl⟩

theorem process_ne_stage (p : Pipeline) (payload : Subject) (context : Context)
    {failure : Failure} (h : p.process payload context = .error failure) :
    failure.kind ≠ .stage := by
  rw [process] at h
  cases hrun : p.run payload context with
  | ok value => rw [hrun] at h; cases h
  | error inner =>
    rw [hrun] at h
    cases h
    exact inner.kind_unwrapped_ne_stage

/-- However a pipeline is executed, the result is that of applying its stages from left to right:
the last value if all of them succeed, and otherwise the failure of the first that fails, wrapped
with its index, with no stage behind it applied. Steps before finishing change nothing, stepping to
the end gives the same result, processing takes the wrappers off, and a run lacks a value to finish
with exactly if one of its steps has failed. -/
theorem executions_agree (p : Pipeline) (payload : Subject) (context : Context) :
    (∀ value, p.run payload context = .ok value ↔
      p.stages.foldlM (fun v stage => stage.apply v context) payload = .ok value) ∧
    (∀ failure, p.run payload context = .error failure ↔
      ∃ (index : Nat) (h : index < p.stages.length) (value : Subject) (inner : Failure),
        (p.stages.take index).foldlM (fun v stage => stage.apply v context) payload = .ok value ∧
          p.stages[index].apply value context = .error inner ∧
            failure = .stage index inner) ∧
    (∀ value, p.run payload context = .ok value →
      Run.InOrder p.stages (fun _ => context) payload p.stages.length
        ((Run.start p payload).applicationsToEnd context)) ∧
    (∀ index inner, p.run payload context = .error (.stage index inner) →
      Run.InOrder p.stages (fun _ => context) payload (index + 1)
        ((Run.start p payload).applicationsToEnd context)) ∧
    (∀ count, (∀ n < count, ∃ state,
        (Run.start p payload).answer (fun _ => context) n = .ok state) →
      ((Run.start p payload).after (fun _ => context) count).finish context =
        p.run payload context) ∧
    CommandLine.stepThrough p payload context = p.run payload context ∧
    p.process payload context = (p.run payload context).mapError Failure.unwrapped ∧
    (∀ failure, p.process payload context = .error failure → failure.kind ≠ .stage) ∧
    ∀ (contexts : Nat → Context) (count : Nat),
      ((Run.start p payload).after contexts count).finish context =
          .error (.configuration "pipeline run produced no value") ↔
        ∃ n < count, ∃ failure, (Run.start p payload).answer contexts n = .error failure := by
  refine ⟨fun value => ?_, fun failure => ?_, fun value => Run.inOrder_of_finish_ok context p,
    fun index inner => Run.inOrder_of_finish_error context p,
    fun count => Run.finish_after context _ count, CommandLine.finish_stepToEnd _ context, rfl,
    fun failure => p.process_ne_stage payload context, fun contexts count => ?_⟩
  · rw [run_eq_fold, Stage.fold_ok_iff]
  · rw [run_eq_fold, Stage.fold_error_iff]
    simp only [Nat.zero_add]
  · rw [(Run.lawful_after p contexts payload count).finish_no_value_iff context,
      Run.failed_after_iff]

theorem executions_agree_on_null :
    let stages := [(Operation.transformer BuiltIn.dropNulls).bind "compact" [],
      (Operation.validator BuiltIn.required).bind "required" []]
    let refusal := (Failure.invalidData "required" .null ["value is required"]).withArguments []
    Pipeline.run ⟨stages⟩ .null .empty = .error (.stage 1 refusal) ∧
      ((Run.start ⟨stages⟩ .null).after (fun _ => .empty) 1).finish .empty =
        .error (.stage 1 refusal) ∧
      Run.InOrder stages (fun _ => .empty) .null 2
        ((Run.start ⟨stages⟩ .null).applicationsToEnd .empty) := by
  intro stages refusal
  obtain ⟨-, hfails, -, horder, hsteps, -⟩ := executions_agree ⟨stages⟩ .null .empty
  have hrun := (hfails (.stage 1 refusal)).2
    ⟨1, Nat.lt_succ_self 1, .null, refusal, rfl, rfl, rfl⟩
  refine ⟨hrun, (hsteps 1 fun n hn => ?_).trans hrun, horder 1 refusal hrun⟩
  obtain rfl : n = 0 := Nat.lt_one_iff.1 hn
  exact ⟨.running 1, rfl⟩

end Pipeline

end Gleaner
