import Gleaner.Entries
import Gleaner.Number.Binary64

/-!
# Document values

A document is a value of the data format JSON. Members keep their order; integers are kept apart
from doubles, and a document that was read holds only integers that fit a signed or unsigned word of
64 bits.
-/

namespace Gleaner

inductive Json where
  | null
  | bool (b : Bool)
  | int (n : Int)
  | float (x : Binary64)
  | string (s : String)
  | array (items : List Json)
  | object (members : List (String × Json))
deriving Inhabited

namespace Json

/-- The name of the kind of a value, as error messages give it. -/
def kind : Json → String
  | null => "null"
  | bool _ => "bool"
  | int _ => "number"
  | float _ => "number"
  | string _ => "string"
  | array _ => "array"
  | object _ => "object"

/-- The value of the only member, when that member has the given name. -/
def soleMember? (name : String) : List (String × Json) → Option Json
  | [(k, v)] => if k = name then some v else none
  | _ => none

mutual

/-- The value with every repeated member at its first position and with its last value. -/
def settled : Json → Json
  | array items => array (settledItems items)
  | object members => object (Entries.ofPairs (settledMembers members))
  | scalar => scalar

def settledItems : List Json → List Json
  | [] => []
  | v :: rest => settled v :: settledItems rest

def settledMembers : List (String × Json) → List (String × Json)
  | [] => []
  | (k, v) :: rest => (k, settled v) :: settledMembers rest

end

/-- An array of texts. -/
def texts (items : List String) : Json :=
  array (items.map string)

end Json

end Gleaner
