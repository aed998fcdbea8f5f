import Gleaner.Json.Writer
import Gleaner.Text.Quoted

/-!
# Reading records from documents

A record is written as an object, or as an array of its fields in their order. In an object a field
may go by several names, unknown members are ignored, and fields are read in the order in which they
are written, so the first thing wrong in the document is the one reported.
-/

namespace Gleaner

/-- Why a document is no record, list or scalar of the expected form. -/
inductive DecodeFault where
  | wrongType (found expected : String)
  | missingField (name : String)
  | duplicateField (name : String)
  | tooFew (count : Nat) (expected : String)
  | tooMany (count : Nat)
  | unknownChoice (found : String) (choices : List String)
  | invalidNumber (found expected : String)
  | inner (text : String)
deriving DecidableEq

namespace DecodeFault

def message : DecodeFault → String
  | wrongType found expected => "invalid type: " ++ found ++ ", expected " ++ expected
  | missingField name => "missing field `" ++ name ++ "`"
  | duplicateField name => "duplicate field `" ++ name ++ "`"
  | tooFew count expected => "invalid length " ++ Numeral.ofNat count ++ ", expected " ++ expected
  | tooMany count =>
    "invalid length " ++ Numeral.ofNat count ++ ", expected fewer elements in array"
  | unknownChoice found choices =>
    "unknown variant `" ++ found ++ "`, expected one of " ++
      String.intercalate ", " (choices.map fun c => "`" ++ c ++ "`")
  | invalidNumber found expected => "invalid value: " ++ found ++ ", expected " ++ expected
  | inner text => text

end DecodeFault

namespace Json

/-- Positional whatever the exponent, always with a point. -/
def plainNumberStyle : DecimalStyle :=
  { leastPositional := -1000, greatestPositional := 1000, wholeEnding := ".0", exponentPlus := "" }

/-- What a value is, as decoding errors put it. -/
def description : Json → String
  | null => "null"
  | bool b => "boolean `" ++ (bool b).writeScalar ++ "`"
  | int n => "integer `" ++ Numeral.ofInt n ++ "`"
  | float x => "floating point `" ++ plainNumberStyle.write x ++ "`"
  | string s => "string " ++ Text.quoted s
  | array _ => "sequence"
  | object _ => "map"

def wrongType {α : Type} (v : Json) (expected : String) : Except DecodeFault α :=
  .error (.wrongType v.description expected)

def asText : Json → Except DecodeFault String
  | string s => .ok s
  | other => other.wrongType "a string"

def asBool : Json → Except DecodeFault Bool
  | bool b => .ok b
  | other => other.wrongType "a boolean"

/-- A count that fits an unsigned word of 64 bits. -/
def asCount : Json → Except DecodeFault Nat
  | int n =>
    if 0 ≤ n ∧ n < (Nat.pow 2 64 : Int) then .ok n.toNat
    else .error (.invalidNumber (int n).description "usize")
  | other => other.wrongType "usize"

/-- A choice among names; an object with one null member names a choice too. -/
def asChoice {α : Type} (choices : List (String × α)) (expected : String) (v : Json) :
    Except DecodeFault α :=
  let name? : Except DecodeFault String := match v with
    | string s => .ok s
    | object [(s, null)] => .ok s
    | object [(_, other)] => other.wrongType "unit"
    | other => other.wrongType expected
  name?.bind fun name =>
    match choices.lookup name with
    | some choice => .ok choice
    | none => .error (.unknownChoice name (choices.map Prod.fst))

end Json

/-- A field of a record under construction: its names, the first of which is its own, and how its
value is put into the record. -/
structure RecordField (σ : Type) where
  names : List String
  put : Json → σ → Except DecodeFault σ
  required : Bool

/-- The form of a record: how it is called in errors, its fields, and the record with all
defaults. -/
structure RecordForm (σ : Type) where
  title : String
  fields : List (RecordField σ)
  initial : σ

namespace RecordForm

variable {σ : Type}

def ownName (field : RecordField σ) : String :=
  field.names.headD ""

/-- Read the members of an object; `seen` holds the own names of the fields already read. -/
def readMembers (form : RecordForm σ) (seen : List String) (record : σ) :
    List (String × Json) → Except DecodeFault σ
  | [] =>
    match form.fields.find? fun f => f.required && !seen.contains (ownName f) with
    | some field => .error (.missingField (ownName field))
    | none => .ok record
  | (k, v) :: rest =>
    match form.fields.find? fun f => f.names.contains k with
    | none => readMembers form seen record rest
    | some field =>
      if seen.contains (ownName field) then .error (.duplicateField (ownName field))
      else
        match field.put v record with
        | .error fault => .error fault
        | .ok record => readMembers form (ownName field :: seen) record rest

/-- Read array elements as fields in their order; `index` fields came before. -/
def readElements (form : RecordForm σ) (record : σ) :
    Nat → List (RecordField σ) → List Json → Except DecodeFault (σ × List Json)
  | _, [], rest => .ok (record, rest)
  | index, field :: fields, [] =>
    if field.required then
      .error (.tooFew index ("struct " ++ form.title ++ " with " ++
        Numeral.ofNat form.fields.length ++ " elements"))
    else readElements form record (index + 1) fields []
  | index, field :: fields, v :: rest =>
    match field.put v record with
    | .error fault => .error fault
    | .ok record => readElements form record (index + 1) fields rest

/-- Read a record. -/
def read (form : RecordForm σ) : Json → Except DecodeFault σ
  | .object members => form.readMembers [] form.initial members
  | .array items =>
    match form.readElements form.initial 0 form.fields items with
    | .error fault => .error fault
    | .ok (record, []) => .ok record
    | .ok _ => .error (.tooMany items.length)
  | other => other.wrongType ("struct " ++ form.title)

end RecordForm

/-- Read a list, element by element. -/
def Json.asListOf {α : Type} (element : Json → Except DecodeFault α) :
    Json → Except DecodeFault (List α)
  | .array items => items.mapM element
  | other => other.wrongType "a sequence"

end Gleaner
