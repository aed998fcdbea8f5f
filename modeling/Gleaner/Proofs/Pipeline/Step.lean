import Gleaner.Pipeline.Run

/-!
# What a step asks of the stages

A run reaches its stages only by applying them, and to say which it applies, and how often, a step
is taken apart. A `Move` is the step of a run whose stages are out of sight: it is settled as it
stands, or it names one stage and says what becomes of the run for each result of that stage. A step
is its move with the named stage put in, so a run applies exactly what its moves name, and these are
kept as the applications of the run.
-/

namespace Gleaner

/-- What a step comes to: how far the run is then, what it holds, and the answer. -/
structure Settlement where
  state : RunState
  value : Option Subject
  answer : Except Failure RunState

/-- A step of a run of `count` stages, up to the one application it may need. -/
inductive Move (count : Nat) where
  | settled (settlement : Settlement)
  /-- Apply the stage with an index to what the run holds. -/
  | application (index : Fin count) (held : Option Subject)
      (settle : Except Failure Subject → Settlement)

/-- One application of a stage in a run: which stage, to what the run held, in which context. -/
structure Application where
  index : Nat
  held : Option Subject
  context : Context

namespace RunState

/-- The index of the stage that comes next in a run that has not ended. -/
def next? : RunState → Option Nat
  | ready => some 0
  | running index => some index
  | succeeded => none
  | failed _ => none

/-- How far a run of `count` stages is once the stage with an index has passed its payload on. -/
def past (count index : Nat) : RunState :=
  if index + 1 = count then succeeded else running (index + 1)

theorem isTerminal_eq_false_iff {state : RunState} :
    state.isTerminal = false ↔ ∃ index, state.next? = some index := by
  cases state with
  | ready => exact ⟨fun _ => ⟨0, rfl⟩, fun _ => rfl⟩
  | running index => exact ⟨fun _ => ⟨index, rfl⟩, fun _ => rfl⟩
  | succeeded => exact ⟨nofun, nofun⟩
  | failed index => exact ⟨nofun, nofun⟩

theorem past_ne_failed (count index n : Nat) : past count index ≠ failed n := by
  rw [past]
  split
  · exact RunState.noConfusion
  · exact RunState.noConfusion

end RunState

namespace Move

def settle (count index : Nat) : Except Failure Subject → Settlement
  | .ok next => ⟨.past count index, some next, .ok (.past count index)⟩
  | .error failure => ⟨.failed index, none, .error (.stage index failure)⟩

def toward (count : Nat) (value : Option Subject) (index : Nat) : Move count :=
  if h : index < count then .application ⟨index, h⟩ value (settle count index)
  else .settled ⟨.succeeded, value, .ok .succeeded⟩

/-- The move from a state. -/
def next (count : Nat) (value : Option Subject) : RunState → Move count
  | .ready => toward count value 0
  | .running index => toward count value index
  | .succeeded => .settled ⟨.succeeded, value, .ok .succeeded⟩
  | .failed index => .settled ⟨.failed index, value, .error (.configuration
      ("pipeline run failed at stage " ++ Numeral.ofNat index ++ " and cannot be resumed"))⟩

theorem next_of_next? {count : Nat} {value : Option Subject} {state : RunState} {index : Nat}
    (h : state.next? = some index) : next count value state = toward count value index := by
  cases state with
  | ready => cases h; rfl
  | running n => cases h; rfl
  | succeeded => cases h
  | failed n => cases h

end Move

namespace Run

/-- The move of a run, in which only the number of its stages counts. -/
def move (run : Run) : Move run.stages.length :=
  .next run.stages.length run.value run.state

def settled (run : Run) (settlement : Settlement) : Run × Except Failure RunState :=
  ({ run with state := settlement.state, value := settlement.value }, settlement.answer)

/-- Carry out a move: the stage that it names, if any, is applied this once. -/
def carryOut (run : Run) (context : Context) :
    Move run.stages.length → Run × Except Failure RunState
  | .settled settlement => run.settled settlement
  | .application index held settle =>
    run.settled (settle (run.stages[index].apply (held.getD .null) context))

theorem applyAt_eq_carryOut (run : Run) (context : Context) (index : Nat) :
    run.applyAt context index = run.carryOut context (.toward _ run.value index) := by
  rw [applyAt, Move.toward]
  split
  · rename_i hnone
    rw [dif_neg (Nat.not_lt.2 (List.getElem?_eq_none_iff.1 hnone))]
    rfl
  · rename_i stage hsome
    obtain ⟨hlt, hstage⟩ := List.getElem?_eq_some_iff.1 hsome
    rw [dif_pos hlt]
    simp only [carryOut, Fin.getElem_fin, hstage]
    cases stage.apply (run.value.getD .null) context with
    | ok next => rfl
    | error failure => rfl

/-- A step is its move, carried out. -/
theorem step_eq_carryOut (run : Run) (context : Context) :
    run.step context = run.carryOut context run.move := by
  obtain ⟨stages, state, value⟩ := run
  cases state with
  | ready => exact applyAt_eq_carryOut _ context 0
  | running index => exact applyAt_eq_carryOut _ context index
  | succeeded => rfl
  | failed index => rfl

def application? (run : Run) (context : Context) : Option Application :=
  match run.move with
  | .settled _ => none
  | .application index held _ => some ⟨index, held, context⟩

/-! ### The three kinds of step -/

variable {run : Run} {index : Nat}

theorem step_of_isTerminal (h : run.state.isTerminal = true) (context : Context) :
    (run.step context).1 = run ∧ run.application? context = none := by
  obtain ⟨stages, state, value⟩ := run
  cases state with
  | ready => cases h
  | running index => cases h
  | succeeded => exact ⟨rfl, rfl⟩
  | failed index => exact ⟨rfl, rfl⟩

theorem step_of_length_le (h : run.state.next? = some index) (hle : run.stages.length ≤ index)
    (context : Context) :
    run.step context = ({ run with state := .succeeded }, .ok .succeeded) ∧
      run.application? context = none := by
  have hmove : run.move = .settled ⟨.succeeded, run.value, .ok .succeeded⟩ := by
    rw [move, Move.next_of_next? h, Move.toward, dif_neg (Nat.not_lt.2 hle)]
  rw [step_eq_carryOut, application?, hmove]
  exact ⟨rfl, rfl⟩

/-- A stage that is left is applied to what the run holds, and its result settles the step. -/
theorem step_of_lt (h : run.state.next? = some index) (hlt : index < run.stages.length)
    (context : Context) :
    run.step context = run.settled (Move.settle run.stages.length index
        (run.stages[index].apply (run.value.getD .null) context)) ∧
      run.application? context = some ⟨index, run.value, context⟩ := by
  have hmove : run.move = .application ⟨index, hlt⟩ run.value
      (Move.settle run.stages.length index) := by
    rw [move, Move.next_of_next? h, Move.toward, dif_pos hlt]
  rw [step_eq_carryOut, application?, hmove]
  exact ⟨rfl, rfl⟩

/-! ### Several steps -/

/-- The run after some steps; `contexts n` is the context of step number `n`. -/
def after (run : Run) (contexts : Nat → Context) : Nat → Run
  | 0 => run
  | count + 1 => ((run.after contexts count).step (contexts count)).1

def answer (run : Run) (contexts : Nat → Context) (count : Nat) : Except Failure RunState :=
  ((run.after contexts count).step (contexts count)).2

def applications (run : Run) (contexts : Nat → Context) : Nat → List Application
  | 0 => []
  | count + 1 => run.applications contexts count ++
      ((run.after contexts count).application? (contexts count)).toList

/-- The applications that finishing a run makes, in order. -/
def applicationsToEnd (run : Run) (context : Context) : List Application :=
  if h : run.state.isTerminal then []
  else
    have := run.stepsLeft_step context (Bool.eq_false_iff.2 h)
    (run.application? context).toList ++
      match (run.step context).2 with
      | .error _ => []
      | .ok _ => (run.step context).1.applicationsToEnd context
termination_by run.stepsLeft

end Run

end Gleaner
