import Gleaner.Yaml.Scalar

/-!
# Nodes of YAML documents

A node that was read keeps its scalars as they are written, because what a plain scalar denotes
depends on what is expected of it: where a text is wanted, `5` and `null` are texts.
-/

namespace Gleaner.Yaml

inductive Node where
  | plain (text : String)
  | quoted (text : String)
  | sequence (items : List Node)
  | mapping (entries : List (String × Node))
deriving Inhabited

/-- What is expected of a node. -/
inductive Shape where
  | any
  | text
  /-- A mapping all of whose values have one shape. -/
  | mapping (values : Shape)
  /-- A mapping or a sequence of fields; a node that is left empty stands for a record without
  any. -/
  | record (fields : List (String × Shape))

namespace Shape

/-- What is expected of the value under a key. -/
def ofKey (key : String) : Shape → Shape
  | mapping values => values
  | record fields => (fields.lookup key).getD any
  | _ => any

/-- What is expected of the elements of a sequence. -/
def ofElements : Shape → List Shape
  | record fields => fields.map Prod.snd
  | _ => []

end Shape

/-- Collections may be nested this many levels deep. -/
def maxLevels : Nat := 128

namespace Node

mutual

/-- The document value of a node of an expected shape, nested at most `levels` deep. -/
def toJsonAs? (shape : Shape) (levels : Nat) : Node → Option Json
  | plain text =>
    match shape with
    | .text => some (.string text)
    | .record _ => if text = "" then some (.object []) else resolve? text
    | _ => resolve? text
  | quoted text => some (.string text)
  | sequence items =>
    if levels = 0 then none
    else (itemsToJson? shape.ofElements (levels - 1) items).map .array
  | mapping entries =>
    if levels = 0 then none
    else (entriesToJson? shape (levels - 1) entries).map .object

def itemsToJson? (shapes : List Shape) (levels : Nat) : List Node → Option (List Json)
  | [] => some []
  | node :: rest => do
    let v ← toJsonAs? (shapes.headD .any) levels node
    let vs ← itemsToJson? shapes.tail levels rest
    some (v :: vs)

def entriesToJson? (shape : Shape) (levels : Nat) :
    List (String × Node) → Option (List (String × Json))
  | [] => some []
  | (key, node) :: rest => do
    let v ← toJsonAs? (shape.ofKey key) levels node
    let ms ← entriesToJson? shape levels rest
    some ((key, v) :: ms)

end

end Node

end Gleaner.Yaml
