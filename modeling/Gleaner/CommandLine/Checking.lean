import Gleaner.CommandLine.Extraction
import Gleaner.CommandLine.Request

/-!
# Checking definitions

A definition is checked by building what it defines. The summary lists what was built: the stages of
a pipeline by their index, or the fields of a mapping with their accessors and stages.
-/

namespace Gleaner.CommandLine

structure SummaryEntry where
  name : String
  accessor : Option String
  stages : List String
deriving DecidableEq, Inhabited

structure Summary where
  kind : DefinitionKind
  entries : List SummaryEntry
deriving Inhabited

namespace Summary

def ofPipeline (p : Pipeline) : Summary :=
  { kind := .pipeline
    entries := p.names.zipIdx.map fun (name, index) => ⟨Numeral.ofNat index, none, [name]⟩ }

/-- The messages about a field whose stages cannot be built. -/
def fieldProblems (c : Catalogue) (name : String) (rule : FieldRule) : List String :=
  match c.pipeline rule.transformations with
  | .ok _ => []
  | .error failure => failure.messages.map fun message => "field '" ++ name ++ "': " ++ message

/-- The summary of the mapping at a path; the problems of all fields are reported together. -/
def ofMapping (c : Catalogue) (path : String) (mapping : Mapping) : Except Failure Summary :=
  match mapping.flatMap fun (name, rule) => fieldProblems c name rule with
  | [] =>
    .ok
      { kind := .mapping
        entries := mapping.map fun (name, rule) =>
          ⟨name, some rule.accessor.display, rule.transformations.map Transformation.name⟩ }
  | problems => .error (.configurationAll (some path) problems)

/-- The summary of the definition in the document at a path. -/
def ofDocument (x : Extractor) (kind : DefinitionKind) (path : String) (document : Json) :
    Except Problem Summary :=
  match kind with
  | .pipeline => (pipelineOf x document).map ofPipeline
  | .mapping =>
    match mappingOf path document with
    | .error problem => .error problem
    | .ok mapping => (ofMapping x.catalogue path mapping).mapError .engine

def header (s : Summary) : List String :=
  match s.kind with
  | .pipeline => ["#", "stage"]
  | .mapping => ["field", "accessor", "stages"]

def row (kind : DefinitionKind) (entry : SummaryEntry) : List String :=
  match kind with
  | .pipeline => [entry.name, String.intercalate ", " entry.stages]
  | .mapping => [entry.name, entry.accessor.getD "", String.intercalate " → " entry.stages]

def entryToJson (entry : SummaryEntry) : Json :=
  .object
    ([("name", .string entry.name)] ++
      entry.accessor.toList.map (fun accessor => ("accessor", Json.string accessor)) ++
      [("stages", .texts entry.stages)])

def toJson (s : Summary) : Json :=
  .object [("kind", .string s.kind.name), ("entries", .array (s.entries.map entryToJson))]

/-- Write a summary: a table for people, a document for machines. -/
def write (w : Output.Writer) (path : String) (s : Summary) : String :=
  w.success ("✓ " ++ path ++ " is a valid " ++ s.kind.name ++ " definition") ++
    w.heading (Numeral.ofNat s.entries.length ++ " entries") ++
    w.table s.header (s.entries.map (row s.kind)) ++
    (if w.format = .human then "" else w.data s.toJson)

end Summary

end Gleaner.CommandLine
