import Gleaner.Stage.Basic

/-!
# Pipelines and their runs

A pipeline is a list of stages. A run applies them in order, one stage a step; it ends at the first
failure, which is wrapped with the index of its stage, and no stage is applied twice. A run that has
ended stays as it is.
-/

namespace Gleaner

structure Pipeline where
  stages : List Stage

namespace Pipeline

/-- Put more stages behind those of a pipeline. -/
def addStages (stages : List Stage) (p : Pipeline) : Pipeline :=
  ⟨p.stages ++ stages⟩

def names (p : Pipeline) : List String :=
  p.stages.map Stage.name

/-- One line that lists the stages. -/
def describe (p : Pipeline) : String :=
  "Pipeline \x7b stages: " ++ Text.quotedList p.names ++ " \x7d"

end Pipeline

/-- How far a run is. -/
inductive RunState where
  | ready
  /-- The stage with this index comes next. -/
  | running (index : Nat)
  | succeeded
  /-- The stage with this index failed. -/
  | failed (index : Nat)
deriving DecidableEq, Inhabited

def RunState.isTerminal : RunState → Bool
  | ready => false
  | running _ => false
  | succeeded => true
  | failed _ => true

/-- An execution of a pipeline. The payload is gone once a stage has failed. -/
structure Run where
  stages : List Stage
  state : RunState
  value : Option Subject

namespace Run

def start (p : Pipeline) (payload : Subject) : Run :=
  { stages := p.stages, state := .ready, value := some payload }

/-- Apply the stage with an index, if there is one. -/
def applyAt (run : Run) (context : Context) (index : Nat) : Run × Except Failure RunState :=
  match run.stages[index]? with
  | none => ({ run with state := .succeeded }, .ok .succeeded)
  | some stage =>
    match stage.apply (run.value.getD .null) context with
    | .ok next =>
      let state := if index + 1 = run.stages.length then .succeeded else .running (index + 1)
      ({ run with state, value := some next }, .ok state)
    | .error failure =>
      ({ run with state := .failed index, value := none }, .error (.stage index failure))

/-- Apply the next stage. -/
def step (run : Run) (context : Context) : Run × Except Failure RunState :=
  match run.state with
  | .ready => run.applyAt context 0
  | .running index => run.applyAt context index
  | .succeeded => (run, .ok .succeeded)
  | .failed index =>
    (run, .error (.configuration
      ("pipeline run failed at stage " ++ Numeral.ofNat index ++ " and cannot be resumed")))

/-- A bound on the steps until the run ends. -/
def stepsLeft (run : Run) : Nat :=
  match run.state with
  | .ready => run.stages.length + 1
  | .running index => run.stages.length - index + 1
  | .succeeded => 0
  | .failed _ => 0

theorem stepsLeft_applyAt (run : Run) (context : Context) (index : Nat) :
    (run.applyAt context index).1.stepsLeft < run.stages.length - index + 1 := by
  unfold applyAt
  split
  · simp [stepsLeft]
  · rename_i h
    have hlt : index < run.stages.length := (List.getElem?_eq_some_iff.1 h).1
    split
    · by_cases hlast : index + 1 = run.stages.length
      · simp [stepsLeft, hlast]
      · simp only [stepsLeft, hlast, if_false]
        omega
    · simp [stepsLeft]

theorem stepsLeft_step (run : Run) (context : Context) (h : run.state.isTerminal = false) :
    (run.step context).1.stepsLeft < run.stepsLeft := by
  have key := run.stepsLeft_applyAt context
  unfold step
  split
  · rename_i hs
    have := key 0
    simp only [stepsLeft, hs] at this ⊢
    omega
  · rename_i index hs
    have := key index
    simp only [stepsLeft, hs] at this ⊢
    omega
  · rename_i hs; simp [hs, RunState.isTerminal] at h
  · rename_i hs; simp [hs, RunState.isTerminal] at h

/-- Step until the run ends. -/
def finish (run : Run) (context : Context) : Except Failure Subject :=
  if h : run.state.isTerminal then
    match run.value with
    | some value => .ok value
    | none => .error (.configuration "pipeline run produced no value")
  else
    have := run.stepsLeft_step context (Bool.eq_false_iff.2 h)
    match (run.step context).2 with
    | .error failure => .error failure
    | .ok _ => (run.step context).1.finish context
termination_by run.stepsLeft

end Run

namespace Pipeline

/-- Run all stages; a failure names the stage that failed. -/
def run (p : Pipeline) (payload : Subject) (context : Context) : Except Failure Subject :=
  (Run.start p payload).finish context

/-- Run all stages; a failure is that of the stage itself. -/
def process (p : Pipeline) (payload : Subject) (context : Context) : Except Failure Subject :=
  (p.run payload context).mapError Failure.unwrapped

end Pipeline

end Gleaner
