import Gleaner.Argument.Reader
import Gleaner.Json.Record
import Gleaner.Pipeline.Run

/-!
# Defining pipelines

A definition is a list of stages by name with the documents that configure them. Building a pipeline
from it reports all that is wrong at once: first every unknown stage, then every stage whose
arguments cannot be read, each in order.
-/

namespace Gleaner

/-- A stage by name, its arguments still a document. -/
structure StageDefinition where
  stage : String
  args : Json
deriving Inhabited

namespace StageDefinition

def form : RecordForm StageDefinition :=
  { title := "StageDefinition"
    fields :=
      [{ names := ["stage", "stage_identifier"]
         put := fun v d => v.asText.map fun stage => { d with stage }
         required := true },
       { names := ["args"]
         put := fun v d => .ok { d with args := v }
         required := false }]
    initial := ⟨"", .null⟩ }

/-- Arguments that are null are left out. -/
def toJson (d : StageDefinition) : Json :=
  match d.args with
  | .null => .object [("stage", .string d.stage)]
  | args => .object [("stage", .string d.stage), ("args", args)]

end StageDefinition

structure PipelineDefinition where
  stages : List StageDefinition
deriving Inhabited

namespace PipelineDefinition

def read (document : Json) : Except DecodeFault PipelineDefinition :=
  (document.asListOf StageDefinition.form.read).map fun stages => ⟨stages⟩

/-- The definition that a document gives. -/
def ofJson (document : Json) : Except Failure PipelineDefinition :=
  (read document).mapError fun _ =>
    ((Failure.configuration
      "pipeline definition must be a list of \x7bstage, args\x7d entries").withOrigin
        "pipeline").withCause .unreadable

def toJson (d : PipelineDefinition) : Json :=
  .array (d.stages.map StageDefinition.toJson)

/-- The stages with their indices. -/
def indexed (d : PipelineDefinition) : List (StageDefinition × Nat) :=
  d.stages.zipIdx

/-- The messages about arguments that cannot be read. -/
def argumentProblems (d : PipelineDefinition) : List String :=
  d.indexed.flatMap fun (stage, index) =>
    match Arguments.ofJson stage.args with
    | .ok _ => []
    | .error failure => failure.messages.map fun message =>
        "stage " ++ Numeral.ofNat index ++ " '" ++ stage.stage ++ "': " ++ message

/-- The stages whose arguments can be read. -/
def readable (d : PipelineDefinition) : List Transformation :=
  d.stages.filterMap fun stage =>
    match Arguments.ofJson stage.args with
    | .ok arguments => some ⟨stage.stage, arguments⟩
    | .error _ => none

/-- The failure that holds the messages about a definition. -/
def problemFailure (problems : List String) : Failure :=
  .configurationAll (some "pipeline") problems

/-- The stages with their arguments; all that cannot be read is reported. -/
def transformations (d : PipelineDefinition) : Except Failure (List Transformation) :=
  if d.argumentProblems.isEmpty then .ok d.readable
  else .error (problemFailure d.argumentProblems)

/-- The messages about stages that are not in the catalogue. -/
def unknownStages (c : Catalogue) (d : PipelineDefinition) : List String :=
  d.indexed.filterMap fun (stage, index) =>
    if c.contains stage.stage then none
    else some ("stage " ++ Numeral.ofNat index ++ ": unknown stage '" ++ stage.stage ++ "'")

end PipelineDefinition

namespace Catalogue

/-- The pipeline of some transformations; the first unknown stage is reported. -/
def pipeline (c : Catalogue) (transformations : List Transformation) : Except Failure Pipeline :=
  (transformations.mapM c.stage).map fun stages => ⟨stages⟩

/-- The pipeline of a definition; all problems are reported. -/
def build (c : Catalogue) (d : PipelineDefinition) : Except Failure Pipeline :=
  let unknown := d.unknownStages c
  match d.transformations with
  | .ok transformations =>
    if unknown.isEmpty then c.pipeline transformations
    else .error (PipelineDefinition.problemFailure unknown)
  | .error failure => .error (PipelineDefinition.problemFailure (unknown ++ failure.messages))

end Catalogue

end Gleaner
