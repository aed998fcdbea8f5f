import Gleaner.Json.Equality
import Gleaner.Json.Writer
import Gleaner.Key

/-!
# Subjects

A subject is a value under inspection: a document value whose integers fit a word and whose maps may
have integer keys, or an object of the host program. The engine knows of an object only who it is,
the name of its type and how it is written; what its fields and methods answer is known to the
`Host`.
-/

namespace Gleaner

/-- An object of the host program. Two objects are the same if they have the same identity, and then
they agree in all else. -/
structure HostObject where
  identity : Nat
  typeName : String
  rendering : Json
deriving DecidableEq, Inhabited

inductive Subject where
  | null
  | bool (b : Bool)
  | int (n : Int64)
  | float (x : Binary64)
  | string (s : String)
  | sequence (items : List Subject)
  | map (entries : List (Key × Subject))
  | object (o : HostObject)
deriving Inhabited

namespace Subject

/-- The name of the type, as messages give it. -/
def typeName : Subject → String
  | null => "null"
  | bool _ => "bool"
  | int _ => "int"
  | float _ => "float"
  | string _ => "string"
  | sequence _ => "sequence"
  | map _ => "map"
  | object o => o.typeName

def isNull : Subject → Bool
  | null => true
  | _ => false

/-- Whether a method call is passed on to the elements. -/
def isCollection : Subject → Bool
  | sequence _ => true
  | map _ => true
  | _ => false

def asString? : Subject → Option String
  | string s => some s
  | _ => none

def asInt? : Subject → Option Int64
  | int n => some n
  | _ => none

/-- The number of an integer or a double, rounded to a double. -/
def asFloat? : Subject → Option Binary64
  | int n => some (.ofInt n.toInt)
  | float x => some x
  | _ => none

def asBool? : Subject → Option Bool
  | bool b => some b
  | _ => none

def asMap? : Subject → Option (List (Key × Subject))
  | map entries => some entries
  | _ => none

def asSequence? : Subject → Option (List Subject)
  | sequence items => some items
  | _ => none

/-- The elements of a collection; nothing else has any. -/
def values : Subject → List Subject
  | sequence items => items
  | map entries => entries.map Prod.snd
  | _ => []

/-! ### Equality

Doubles are compared as numbers, so a subject that holds a NaN is not equal to itself. Maps are
equal if their entries are, in order.
-/

mutual

def equal : Subject → Subject → Bool
  | null, null => true
  | bool a, bool b => a = b
  | int a, int b => a = b
  | float a, float b => a.equal b
  | string a, string b => a = b
  | sequence a, sequence b => equalItems a b
  | map a, map b => equalEntries a b
  | object a, object b => a = b
  | _, _ => false

def equalItems : List Subject → List Subject → Bool
  | [], [] => true
  | a :: as, b :: bs => equal a b && equalItems as bs
  | _, _ => false

def equalEntries : List (Key × Subject) → List (Key × Subject) → Bool
  | [], [] => true
  | (k, a) :: as, (l, b) :: bs => k = l && equal a b && equalEntries as bs
  | _, _ => false

end

instance : BEq Subject := ⟨equal⟩

/-! ### Subjects and documents

An integer key is written in decimal, and of two entries whose keys are then the same text the first
gives the position and the last the value. A double that is not finite has no document value.
-/

mutual

/-- The document that shows a subject. -/
def toJson : Subject → Json
  | null => .null
  | bool b => .bool b
  | int n => .int n.toInt
  | float x => if x.isFinite then .float x else .null
  | string s => .string s
  | sequence items => .array (toJsonItems items)
  | map entries => .object (Entries.ofPairs (toJsonEntries entries))
  | object o => o.rendering

def toJsonItems : List Subject → List Json
  | [] => []
  | v :: rest => toJson v :: toJsonItems rest

def toJsonEntries : List (Key × Subject) → List (String × Json)
  | [] => []
  | (k, v) :: rest => (k.segment, toJson v) :: toJsonEntries rest

end

mutual

/-- The subject that a document denotes. An integer too large for a word becomes the nearest
double. -/
def ofJson : Json → Subject
  | .null => null
  | .bool b => bool b
  | .int n => if Numeral.fitsWord n then int (Int64.ofInt n) else float (.ofInt n)
  | .float x => float x
  | .string s => string s
  | .array items => sequence (ofJsonItems items)
  | .object members => map (ofJsonMembers members)

def ofJsonItems : List Json → List Subject
  | [] => []
  | v :: rest => ofJson v :: ofJsonItems rest

def ofJsonMembers : List (String × Json) → List (Key × Subject)
  | [] => []
  | (k, v) :: rest => (.text k, ofJson v) :: ofJsonMembers rest

end

/-- A string stands for itself; every other subject is written as a document without blanks. -/
def display : Subject → String
  | string s => s
  | other => other.toJson.compact

end Subject

end Gleaner
