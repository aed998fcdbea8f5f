import Gleaner.Mapping
import Gleaner.Stage.BuiltIn

/-!
# Extraction

An extractor resolves an accessor and passes what it yields through transformations. Its failures
are those of the resolution or of the failing stage itself, never wrapped. A mapping is extracted
field by field, and the first field that fails is named in the last message.
-/

namespace Gleaner

structure Extractor where
  resolver : Resolver
  catalogue : Catalogue

namespace Extractor

/-- The extractor with the built-in stages. -/
def standard (r : Resolver) : Extractor :=
  ⟨r, .builtIn r⟩

def extract (x : Extractor) (subject : Subject) (accessor : Accessor)
    (transformations : List Transformation) (context : Context) : Except Failure Subject := do
  let value ← x.resolver.resolve subject accessor context
  if transformations.isEmpty then .ok value
  else
    let pipeline ← x.catalogue.pipeline transformations
    pipeline.process value context

/-- Extract one field of a mapping. -/
def extractField (x : Extractor) (subject : Subject) (context : Context) (name : String)
    (rule : FieldRule) : Except Failure (Key × Subject) :=
  match x.extract subject rule.accessor rule.transformations context with
  | .ok value => .ok (.text name, value)
  | .error failure => .error (failure.withMessage ("field '" ++ name ++ "' could not be produced"))

def extractFields (x : Extractor) (subject : Subject) (mapping : Mapping) (context : Context) :
    Except Failure Subject :=
  (mapping.mapM fun ((name, rule) : String × FieldRule) =>
    x.extractField subject context name rule).map fun fields => .map (Entries.ofPairs fields)

end Extractor

end Gleaner
