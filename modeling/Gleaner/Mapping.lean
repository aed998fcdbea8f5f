import Gleaner.Pipeline.Definition

/-!
# Mappings

A mapping says how each field of a result is produced: by an accessor and the transformations of
what it yields.
-/

namespace Gleaner

structure FieldRule where
  accessor : Accessor
  transformations : List Transformation
deriving Inhabited

namespace FieldRule

def readAccessor (v : Json) : Except DecodeFault Accessor :=
  (Accessor.ofJson v).mapError fun failure => .inner failure.describe

def readTransformations (v : Json) : Except DecodeFault (List Transformation) := do
  let definition ← PipelineDefinition.read v
  definition.transformations.mapError fun failure => .inner failure.describe

def form : RecordForm FieldRule :=
  { title := "FieldSpec"
    fields :=
      [{ names := ["accessor"]
         put := fun v rule => (readAccessor v).map fun accessor => { rule with accessor }
         required := false },
       { names := ["transformations", "pipeline"]
         put := fun v rule =>
           (readTransformations v).map fun transformations => { rule with transformations }
         required := false }]
    initial := ⟨.identity, []⟩ }

end FieldRule

/-- Rules by field name, in the order of the result. -/
abbrev Mapping := List (String × FieldRule)

namespace Mapping

/-- Read a mapping from a document. -/
def read : Json → Except DecodeFault Mapping
  | .object members => members.mapM fun ((name, v) : String × Json) =>
      (FieldRule.form.read v).map fun rule => (name, rule)
  | other => other.wrongType "a map"

end Mapping

end Gleaner
