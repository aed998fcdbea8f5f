import Gleaner.Failure

/-!
# Reading arguments from documents

Null is the empty list, an object gives named arguments, an array gives positional ones. Inside an
array, an object with a key marker is one argument with that key. An object whose only member is the
extraction marker is a deferred value, one whose only member is the literal marker is plain data,
and every other collection is a nested list. Nothing else may use the two markers.
-/

namespace Gleaner

/-- Why a document is no argument list. -/
inductive ArgumentFault where
  | listKind (found : String)
  | accessorObject
  | accessorKind (found : String)
  | keyedShape
  | keyNumber
  | keyObject
  | keyKind (found : String)
  | mixedMarkers
deriving DecidableEq

namespace ArgumentFault

def message : ArgumentFault → String
  | listKind found => "arguments must be an object, an array or null, found " ++ found
  | accessorObject => "accessor object must be \x7b\"" ++ extractMarker ++ "\": ...\x7d"
  | accessorKind found => "accessor must be a string, null or an extraction, found " ++ found
  | keyedShape =>
    "keyed argument must contain exactly \"" ++ keyMarker ++ "\" and \"" ++ valueMarker ++ "\""
  | keyNumber => "argument key must be an integer or a string"
  | keyObject => "argument key object must be an \"" ++ extractMarker ++ "\" marker"
  | keyKind found => "argument key must be a string, integer or extraction, found " ++ found
  | mixedMarkers =>
    "\"" ++ extractMarker ++ "\" and \"" ++ literalMarker ++
      "\" markers must be the only key of their object"

def failure (f : ArgumentFault) : Failure :=
  .configuration f.message

end ArgumentFault

/-- Read an accessor: a path, null for the empty path, or an extraction for a computed one. -/
def Accessor.read : Json → Except ArgumentFault Accessor
  | .null => .ok .identity
  | .string text => .ok (.path text)
  | .object [(name, inner)] =>
    if name = extractMarker then (Accessor.read inner).map .computed else .error .accessorObject
  | .object _ => .error .accessorObject
  | other => .error (.accessorKind other.kind)

namespace Arguments

mutual

/-- Read a value. -/
def readValue : Json → Except ArgumentFault ArgumentValue
  | .object members => readObject members
  | .array items => (readItems items).map .nested
  | scalar => .ok (.literal (.ofJson scalar))

/-- Read an object that is a value: a marker or a nested list. -/
def readObject (members : List (String × Json)) : Except ArgumentFault ArgumentValue :=
  match Json.soleMember? extractMarker members with
  | some inner => (Accessor.read inner).map fun a => .extraction ⟨a⟩
  | none =>
    match Json.soleMember? literalMarker members with
    | some inner => .ok (.literal (.ofJson inner))
    | none =>
      if Entries.contains extractMarker members || Entries.contains literalMarker members then
        .error .mixedMarkers
      else (readMembers members).map .nested

/-- Read members as named arguments. -/
def readMembers : List (String × Json) → Except ArgumentFault (List (ArgumentKey × ArgumentValue))
  | [] => .ok []
  | (k, v) :: rest => do
    let value ← readValue v
    let args ← readMembers rest
    .ok ((.literal (.text k), value) :: args)

/-- Read array elements as positional or keyed arguments. -/
def readItems : List Json → Except ArgumentFault (List (ArgumentKey × ArgumentValue))
  | [] => .ok []
  | item :: rest => do
    let arg ← readItem item
    let args ← readItems rest
    .ok (arg :: args)

def readItem : Json → Except ArgumentFault (ArgumentKey × ArgumentValue)
  | .object members =>
    if Entries.contains keyMarker members then readKeyed members
    else (readObject members).map fun value => (.positional, value)
  | .array items => (readItems items).map fun args => (.positional, .nested args)
  | scalar => .ok (.positional, .literal (.ofJson scalar))

/-- Read an object with a key marker: it has that member and the value, and no other. -/
def readKeyed : List (String × Json) → Except ArgumentFault (ArgumentKey × ArgumentValue)
  | [(k, a), (l, b)] =>
    if k = keyMarker ∧ l = valueMarker then do
      let key ← readKey a
      let value ← readValue b
      .ok (key, value)
    else if k = valueMarker ∧ l = keyMarker then do
      let key ← readKey b
      let value ← readValue a
      .ok (key, value)
    else .error .keyedShape
  | _ => .error .keyedShape

/-- Read the key of a keyed argument. -/
def readKey : Json → Except ArgumentFault ArgumentKey
  | .string s => .ok (.literal (.text s))
  | .int n =>
    if Numeral.fitsWord n then .ok (.literal (.int (Int64.ofInt n))) else .error .keyNumber
  | .float _ => .error .keyNumber
  | .object members => do
    match ← readObject members with
    | .extraction e => .ok (.extraction e)
    | _ => .error .keyObject
  | other => .error (.keyKind other.kind)

end

/-- Read an argument list. -/
def read : Json → Except ArgumentFault Arguments
  | .null => .ok []
  | .object members => readMembers members
  | .array items => readItems items
  | other => .error (.listKind other.kind)

/-- The argument list that a document configures. -/
def ofJson (document : Json) : Except Failure Arguments :=
  (read document).mapError ArgumentFault.failure

end Arguments

/-- The accessor that a document configures. -/
def Accessor.ofJson (document : Json) : Except Failure Accessor :=
  (Accessor.read document).mapError ArgumentFault.failure

end Gleaner
