import Gleaner.Extractor
import Gleaner.Output.Writer

/-!
# Extracting and mapping documents

The two commands that produce a subject: one reads a value at a path and passes it through a
pipeline, the other produces the fields of a mapping. Both write remarks for people before the
result, so what was written stands even if a problem follows.
-/

namespace Gleaner.CommandLine

/-- What a command writes, and the problem that ends it, if any. -/
structure Transcript where
  written : String
  problem : Option Problem
deriving Inhabited

namespace Transcript

def failure (p : Problem) : Transcript :=
  ⟨"", some p⟩

/-- Put a text in front. -/
def after (text : String) (t : Transcript) : Transcript :=
  { t with written := text ++ t.written }

end Transcript

/-- Step a run until it ends. -/
def stepToEnd (run : Run) (context : Context) : Except Failure Run :=
  if h : run.state.isTerminal then .ok run
  else
    have := run.stepsLeft_step context (Bool.eq_false_iff.2 h)
    match (run.step context).2 with
    | .error failure => .error failure
    | .ok _ => stepToEnd (run.step context).1 context
termination_by run.stepsLeft

/-- Run a pipeline step by step; a failure names the stage that failed. -/
def stepThrough (p : Pipeline) (payload : Subject) (context : Context) :
    Except Failure Subject := do
  let run ← stepToEnd (Run.start p payload) context
  run.finish context

/-- The remark on the stages that are run. -/
def runningRemark (p : Pipeline) : String :=
  "Running " ++ Numeral.ofNat p.stages.length ++ " stage(s): " ++ String.intercalate " → " p.names

/-- Write the value that an accessor led to. -/
def writeValue (w : Output.Writer) (accessor : String) (value : Subject) : Transcript :=
  let warning := if value.isNull then w.warning ("'" ++ accessor ++ "' produced null") else ""
  ⟨warning ++ w.subject value, none⟩

/-- Read the value at a path and pass it through a pipeline. -/
def extractValue (w : Output.Writer) (x : Extractor) (subject : Subject) (accessor : String)
    (pipeline : Option Pipeline) (context : Context) : Transcript :=
  match x.resolver.resolve subject (.path accessor) context with
  | .error failure => .failure (.engine failure)
  | .ok value =>
    match pipeline with
    | none => writeValue w accessor value
    | some p =>
      .after (w.info (runningRemark p))
        (match stepThrough p value context with
          | .error failure => .failure (.engine failure)
          | .ok value => writeValue w accessor value)

/-- Read a mapping from the document at a path. -/
def mappingOf (path : String) (document : Json) : Except Problem Mapping :=
  match document with
  | .object members =>
    (Mapping.read (.object members)).mapError fun fault =>
      .engine ((Failure.configuration fault.message).withOrigin path)
  | _ =>
    .error (.invalidFormat path "a mapping of field names to \x7baccessor, pipeline\x7d")

/-- The pipeline that a document defines. -/
def pipelineOf (x : Extractor) (document : Json) : Except Problem Pipeline :=
  match PipelineDefinition.ofJson document with
  | .error failure => .error (.engine failure)
  | .ok definition => (x.catalogue.build definition).mapError .engine

/-- The context in the document at a path. -/
def contextOf (path : String) (document : Json) : Except Problem Context :=
  match Context.ofJson? document with
  | some context => .ok context
  | none => .error (.invalidFormat path "an object at the top level")

/-- Produce the fields of a mapping. -/
def mapSubject (w : Output.Writer) (x : Extractor) (subject : Subject) (mapping : Mapping)
    (context : Context) : Transcript :=
  .after (w.info ("Producing " ++ Numeral.ofNat mapping.length ++ " field(s)"))
    (match x.extractFields subject mapping context with
      | .error failure => .failure (.engine failure)
      | .ok value => ⟨w.subject value, none⟩)

end Gleaner.CommandLine
