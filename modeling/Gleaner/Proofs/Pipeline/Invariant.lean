import Gleaner.Proofs.Pipeline.Step
import Gleaner.Stage.BuiltIn

/-!
# The invariant of a run

After any number of steps, each in a context of its own, the state of a run says which stages have
been applied and what the run holds: before the end, and after success, exactly what these stages
make of the payload, and after a failure nothing. So the stages are applied in order, each at most
once and never for want of a payload, and a run that has ended is not moved by further steps.
-/

namespace Gleaner

/-- What the first `count` stages make of a payload; stage number `n` is applied in the context
`contexts n`. -/
def Stage.thread (stages : List Stage) (contexts : Nat → Context) (payload : Subject)
    (count : Nat) : Except Failure Subject :=
  (stages.zipIdx.take count).foldlM
    (fun value (stage, index) => stage.apply value (contexts index)) payload

@[simp] theorem Stage.thread_zero (stages : List Stage) (contexts : Nat → Context)
    (payload : Subject) : thread stages contexts payload 0 = .ok payload :=
  rfl

theorem Stage.thread_succ {stages : List Stage} (contexts : Nat → Context) (payload : Subject)
    {index : Nat} (h : index < stages.length) :
    thread stages contexts payload (index + 1) =
      thread stages contexts payload index >>= fun value =>
        stages[index].apply value (contexts index) := by
  have htake : stages.zipIdx.take (index + 1) =
      stages.zipIdx.take index ++ [(stages[index], index)] := by
    rw [List.take_add_one, List.getElem?_zipIdx, List.getElem?_eq_getElem h]
    simp
  rw [thread, htake, List.foldlM_append, thread]
  simp only [List.foldlM_cons, List.foldlM_nil, bind_pure]

/-- The number of stages that a run of `count` stages has applied. -/
def RunState.applied (count : Nat) : RunState → Nat
  | ready => 0
  | running index => index
  | succeeded => count
  | failed index => index + 1

theorem RunState.applied_past (count index : Nat) :
    (RunState.past count index).applied count = index + 1 := by
  rw [past]
  split
  · rename_i hlast
    exact hlast.symm
  · rfl

namespace Run

/-- What holds of a run of `stages` on `payload` after `count` steps. -/
def Lawful (stages : List Stage) (contexts : Nat → Context) (payload : Subject) (count : Nat)
    (run : Run) : Prop :=
  run.stages = stages ∧
    match run.state with
    | .ready => count = 0 ∧ run.value = some payload
    | .running index => index = count ∧ 0 < index ∧ index < stages.length ∧
        ∃ value, run.value = some value ∧
          Stage.thread stages contexts payload index = .ok value
    | .succeeded => 0 < count ∧ stages.length ≤ count ∧
        ∃ value, run.value = some value ∧
          Stage.thread stages contexts payload stages.length = .ok value
    | .failed index => index < count ∧ run.value = none ∧
        ∃ (h : index < stages.length) (value : Subject) (failure : Failure),
          Stage.thread stages contexts payload index = .ok value ∧
            stages[index].apply value (contexts index) = .error failure

variable {stages : List Stage} {contexts : Nat → Context} {payload : Subject} {count : Nat}
  {run : Run}

theorem lawful_start (p : Pipeline) (contexts : Nat → Context) (payload : Subject) :
    (start p payload).Lawful p.stages contexts payload 0 :=
  ⟨rfl, rfl, rfl⟩

/-- A run either has ended, or it holds what the stages so far made of the payload. -/
theorem Lawful.ended_or_holds (h : run.Lawful stages contexts payload count) :
    run.state.isTerminal = true ∨
      run.state.next? = some count ∧ run.state.applied stages.length = count ∧
        count ≤ stages.length ∧ ∃ value, run.value = some value ∧
          Stage.thread stages contexts payload count = .ok value := by
  obtain ⟨stages', state, value⟩ := run
  obtain ⟨rfl, hstate⟩ := h
  cases state with
  | ready =>
    obtain ⟨rfl, hvalue⟩ := hstate
    exact .inr ⟨rfl, rfl, Nat.zero_le _, payload, hvalue, rfl⟩
  | running index =>
    obtain ⟨rfl, -, hlt, hvalue⟩ := hstate
    exact .inr ⟨rfl, rfl, Nat.le_of_lt hlt, hvalue⟩
  | succeeded => exact .inl rfl
  | failed index => exact .inl rfl

theorem Lawful.holds_or_failed (h : run.Lawful stages contexts payload count)
    (hend : run.state.isTerminal = true) :
    (run.state = .succeeded ∧ ∃ value, run.value = some value) ∨
      (∃ index, run.state = .failed index) ∧ run.value = none := by
  obtain ⟨stages', state, value⟩ := run
  obtain ⟨rfl, hstate⟩ := h
  cases state with
  | ready => cases hend
  | running index => cases hend
  | succeeded =>
    obtain ⟨-, -, value, hvalue, -⟩ := hstate
    exact .inl ⟨rfl, value, hvalue⟩
  | failed index => exact .inr ⟨⟨index, rfl⟩, hstate.2.1⟩

/-- Of a run that has ended the same holds after any further step. -/
theorem Lawful.succ_of_isTerminal (h : run.Lawful stages contexts payload count)
    (hend : run.state.isTerminal = true) : run.Lawful stages contexts payload (count + 1) := by
  obtain ⟨stages', state, value⟩ := run
  obtain ⟨rfl, hstate⟩ := h
  cases state with
  | ready => cases hend
  | running index => cases hend
  | succeeded =>
    obtain ⟨hpos, hle, hvalue⟩ := hstate
    exact ⟨rfl, Nat.succ_pos _, Nat.le_succ_of_le hle, hvalue⟩
  | failed index =>
    obtain ⟨hlt, hvalue⟩ := hstate
    exact ⟨rfl, Nat.lt_succ_of_lt hlt, hvalue⟩

theorem lawful_settled {value : Subject} (hstages : run.stages = stages)
    (hlt : count < stages.length)
    (hthread : Stage.thread stages contexts payload count = .ok value) :
    (run.settled (Move.settle stages.length count
      (stages[count].apply value (contexts count)))).1.Lawful stages contexts payload
        (count + 1) := by
  refine ⟨hstages, ?_⟩
  cases hresult : stages[count].apply value (contexts count) with
  | error failure =>
    exact ⟨Nat.lt_succ_self _, rfl, hlt, value, failure, hthread, hresult⟩
  | ok next =>
    have hnext : Stage.thread stages contexts payload (count + 1) = .ok next := by
      rw [Stage.thread_succ contexts payload hlt, hthread]
      exact hresult
    simp only [settled, Move.settle, RunState.past]
    by_cases hlast : count + 1 = stages.length
    · rw [if_pos hlast]
      exact ⟨Nat.succ_pos _, Nat.le_of_eq hlast.symm, next, rfl, hlast ▸ hnext⟩
    · rw [if_neg hlast]
      exact ⟨rfl, Nat.succ_pos _, by omega, next, rfl, hnext⟩

/-- One step keeps what holds of a run. -/
theorem Lawful.step (h : run.Lawful stages contexts payload count) :
    (run.step (contexts count)).1.Lawful stages contexts payload (count + 1) := by
  obtain hend | ⟨hnext, -, hle, value, hvalue, hthread⟩ := h.ended_or_holds
  · rw [(step_of_isTerminal hend _).1]
    exact h.succ_of_isTerminal hend
  · have hstages := h.1
    obtain hlt | heq := Nat.lt_or_eq_of_le hle
    · subst hstages
      rw [(step_of_lt hnext hlt _).1, hvalue]
      exact lawful_settled rfl hlt hthread
    · rw [(step_of_length_le hnext (by rw [hstages]; exact Nat.le_of_eq heq.symm) _).1]
      refine ⟨hstages, Nat.succ_pos _, by omega, value, hvalue, ?_⟩
      rw [← heq]
      exact hthread

theorem lawful_after (p : Pipeline) (contexts : Nat → Context) (payload : Subject)
    (count : Nat) :
    ((start p payload).after contexts count).Lawful p.stages contexts payload count := by
  induction count with
  | zero => exact lawful_start p contexts payload
  | succ count ih => exact ih.step

/-! ### Which stages are applied -/

/-- The first `count` stages, each applied once and in order to what the stages before it made of
the payload, in the context of its step. -/
def InOrder (stages : List Stage) (contexts : Nat → Context) (payload : Subject) (count : Nat)
    (applications : List Application) : Prop :=
  applications.map Application.index = List.range count ∧
    ∀ application ∈ applications, application.context = contexts application.index ∧
      ∃ value, application.held = some value ∧
        Stage.thread stages contexts payload application.index = .ok value

theorem InOrder.append {applications : List Application} {value : Subject}
    (h : InOrder stages contexts payload count applications)
    (hthread : Stage.thread stages contexts payload count = .ok value) :
    InOrder stages contexts payload (count + 1)
      (applications ++ [⟨count, some value, contexts count⟩]) := by
  refine ⟨?_, fun application hmem => ?_⟩
  · rw [List.map_append, h.1, List.range_succ]
    rfl
  · obtain hmem | hmem := List.mem_append.1 hmem
    · exact h.2 application hmem
    · rw [List.mem_singleton] at hmem
      subst hmem
      exact ⟨rfl, value, rfl, hthread⟩

/-- A step applies the stage that comes next, if any is left. -/
theorem Lawful.inOrder_step {applications : List Application}
    (h : run.Lawful stages contexts payload count)
    (happs : InOrder stages contexts payload (run.state.applied stages.length) applications) :
    InOrder stages contexts payload
      ((run.step (contexts count)).1.state.applied stages.length)
      (applications ++ (run.application? (contexts count)).toList) := by
  obtain hend | ⟨hnext, happlied, hle, value, hvalue, hthread⟩ := h.ended_or_holds
  · obtain ⟨hstep, hnone⟩ := step_of_isTerminal hend (contexts count)
    rw [hstep, hnone, Option.toList_none, List.append_nil]
    exact happs
  · have hstages := h.1
    obtain hlt | heq := Nat.lt_or_eq_of_le hle
    · subst hstages
      obtain ⟨hstep, happ⟩ := step_of_lt hnext hlt (contexts count)
      rw [hstep, happ, hvalue, Option.toList_some]
      have hcount : (run.settled (Move.settle run.stages.length count
          (run.stages[count].apply value (contexts count)))).1.state.applied run.stages.length =
            count + 1 := by
        cases run.stages[count].apply value (contexts count) with
        | error failure => rfl
        | ok next => exact RunState.applied_past _ _
      rw [happlied] at happs
      rw [Option.getD_some, hcount]
      exact happs.append hthread
    · obtain ⟨hstep, hnone⟩ := step_of_length_le hnext
        (by rw [hstages]; exact Nat.le_of_eq heq.symm) (contexts count)
      rw [hstep, hnone, Option.toList_none, List.append_nil]
      rw [happlied, heq] at happs
      exact happs

theorem inOrder_applications (p : Pipeline) (contexts : Nat → Context) (payload : Subject)
    (count : Nat) :
    InOrder p.stages contexts payload
      (((start p payload).after contexts count).state.applied p.stages.length)
      ((start p payload).applications contexts count) := by
  induction count with
  | zero => exact ⟨rfl, by simp [applications]⟩
  | succ count ih => exact (lawful_after p contexts payload count).inOrder_step ih

/-! ### The whole run -/

/-- After any number of steps of a started run, its state tells what it holds and which stages were
applied, each once, in order and to a payload that was there. A run that has succeeded stays as it
is and says so again. A run that has failed stays as it is, applies no stage and refuses the step. -/
theorem start_after (p : Pipeline) (payload : Subject) (contexts : Nat → Context) (count : Nat) :
    let run := (start p payload).after contexts count
    run.Lawful p.stages contexts payload count ∧
    InOrder p.stages contexts payload (run.state.applied p.stages.length)
      ((start p payload).applications contexts count) ∧
    (run.state = .succeeded → ∀ context,
      run.step context = (run, .ok .succeeded) ∧ run.application? context = none) ∧
    ∀ index, run.state = .failed index → ∀ context,
      run.application? context = none ∧ ∃ failure, failure.kind = .configuration ∧
        run.step context = (run, .error failure) := by
  intro run
  refine ⟨lawful_after p contexts payload count, inOrder_applications p contexts payload count,
    fun hstate context => ⟨?_, ?_⟩, fun index hstate context => ⟨?_, ?_⟩⟩
  · rw [step, hstate]
  · exact (step_of_isTerminal (by rw [hstate]; rfl) context).2
  · exact (step_of_isTerminal (by rw [hstate]; rfl) context).2
  · rw [step, hstate]
    exact ⟨_, rfl, rfl⟩

theorem start_after_on_null :
    let stages := [(Operation.transformer BuiltIn.dropNulls).bind "compact" [],
      (Operation.validator BuiltIn.required).bind "required" []]
    let run := (start ⟨stages⟩ .null).after (fun _ => .empty) 2
    run.state = .failed 1 ∧
      InOrder stages (fun _ => .empty) .null 2
        ((start ⟨stages⟩ .null).applications (fun _ => .empty) 2) ∧
      ∃ failure, failure.kind = .configuration ∧ run.step .empty = (run, .error failure) := by
  intro stages run
  obtain ⟨-, horder, -, hrefuses⟩ := start_after ⟨stages⟩ .null (fun _ => .empty) 2
  exact ⟨rfl, horder, (hrefuses 1 rfl .empty).2⟩

end Run

end Gleaner
