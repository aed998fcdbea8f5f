import Gleaner.Output.Tree
import Gleaner.Subject
import Gleaner.Yaml.Writer

/-!
# Output formats

Three formats are for machines. The fourth is for people: it shows a subject as a tree, and all
other data as an indented document.
-/

namespace Gleaner

inductive OutputFormat where
  | human
  | json
  | yaml
  | jsonPretty
deriving DecidableEq, Inhabited

namespace OutputFormat

/-- The formats by name. -/
def names : List (String × OutputFormat) :=
  [("human", human), ("json", json), ("yaml", yaml), ("json-pretty", jsonPretty)]

def name : OutputFormat → String
  | human => "human"
  | json => "json"
  | yaml => "yaml"
  | jsonPretty => "json-pretty"

/-- The text of a document. -/
def formatDocument (v : Json) : OutputFormat → String
  | json => v.compact
  | yaml => Yaml.write v
  | jsonPretty => v.pretty
  | human => v.pretty

/-- The text of a subject. -/
def formatSubject (s : Subject) : OutputFormat → String
  | human => Output.Tree.display s.toJson
  | format => format.formatDocument s.toJson

end OutputFormat

end Gleaner
