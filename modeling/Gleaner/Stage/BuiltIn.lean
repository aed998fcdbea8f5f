import Gleaner.Pattern.Reader
import Gleaner.Stage.Basic

/-!
# Built-in stages

Six transformers and three validators for common reshaping and checks. Those that take arguments
read them against the payload, so their configuration may hold deferred values. The main argument of
a stage is the one with its name or else the first positional one.
-/

namespace Gleaner.BuiltIn

/-! ### Arguments of a stage -/

/-- The failure of a stage whose argument could not be expanded. -/
def expansionFailure (stage name : String) (args : Arguments) (f : Failure) : Failure :=
  ((Failure.transformation stage ["could not expand argument '" ++ name ++ "'"]).withArguments
    args).withCause (.failure f)

/-- The argument with a name, expanded. -/
def expandNamed (r : Resolver) (stage name : String) (fallback : ArgumentValue)
    (args : Arguments) (payload : Subject) (context : Context) : Except Failure Subject :=
  (args.getExpanded (.text name) fallback ⟨r, payload, context⟩).mapError
    (expansionFailure stage name args)

/-- The main argument of a stage, expanded. -/
def expandMain (r : Resolver) (stage name : String) (args : Arguments) (payload : Subject)
    (context : Context) : Except Failure Subject :=
  expandNamed r stage name (args.getD (.int 0) (.literal .null)) args payload context

/-! ### Transformers -/

/-- Change a string; null passes. -/
def onString (name : String) (change : String → String) (payload : Subject) (args : Arguments)
    (_ : Context) : Except Failure Subject :=
  match payload with
  | .null => .ok .null
  | .string s => .ok (.string (change s))
  | other => .error ((Failure.invalidType name "string" other []).withArguments args)

/-- Replace null by the argument `value`. -/
def fillNull (r : Resolver) (payload : Subject) (args : Arguments) (context : Context) :
    Except Failure Subject :=
  match payload with
  | .null => expandMain r "default" "value" args .null context
  | other => .ok other

/-- The key under which a payload is looked up in a table. -/
def tableKey? : Subject → Option Key
  | .string s => some (.text s)
  | .int n => some (.int n)
  | _ => none

/-- Look the payload up in the table `values`; without an entry, take the argument `default`. -/
def lookUp (r : Resolver) (payload : Subject) (args : Arguments) (context : Context) :
    Except Failure Subject :=
  match tableKey? payload with
  | none => .error ((Failure.invalidType "map" "string or int" payload []).withArguments args)
  | some key => do
    match ← expandMain r "map" "values" args payload context with
    | .map table =>
      match Entries.get? key table with
      | some value => .ok value
      | none =>
        if args.contains (.text "default") then
          expandNamed r "map" "default" (.literal .null) args payload context
        else
          .error (((Failure.transformation "map" ["no mapping for '" ++ key.segment ++ "'"])
            |>.withArguments args).withData payload)
    | other =>
      .error ((Failure.transformation "map"
        ["argument 'values' must be a map, found " ++ other.typeName]).withArguments args)

/-- Drop the null elements of a collection. -/
def dropNulls (payload : Subject) (_ : Arguments) (_ : Context) : Except Failure Subject :=
  match payload with
  | .sequence items => .ok (.sequence (items.filter fun v => !v.isNull))
  | .map entries => .ok (.map (entries.filter fun entry => !entry.2.isNull))
  | other => .ok other

/-! ### Validators -/

/-- Refuse null and blank strings. -/
def required (payload : Subject) (args : Arguments) (_ : Context) : Except Failure Unit :=
  let refuse (message : String) : Except Failure Unit :=
    .error ((Failure.invalidData "required" payload [message]).withArguments args)
  match payload with
  | .null => refuse "value is required"
  | .string s => if Text.isBlank s then refuse "value must not be blank" else .ok ()
  | _ => .ok ()

/-- Whether a subject is of a named type; `number` and `object` name groups of types. -/
def hasType (name : String) (v : Subject) : Bool :=
  v.typeName = name ||
    (match v with
      | .int _ => name = "number"
      | .float _ => name = "number"
      | .object _ => name = "object"
      | _ => false)

/-- Refuse a payload that is not of the type that the argument `type` names. -/
def typeIs (r : Resolver) (payload : Subject) (args : Arguments) (context : Context) :
    Except Failure Unit := do
  match ← expandMain r "type" "type" args payload context with
  | .string expected =>
    if hasType expected payload then .ok ()
    else .error ((Failure.invalidType "type" expected payload []).withArguments args)
  | other =>
    .error ((Failure.configuration ("'type' validator needs a type name, found " ++ other.typeName))
      |>.withOrigin "type")

/-- Refuse a string in which the pattern that the argument `pattern` holds does not occur. -/
def matchesPattern (r : Resolver) (payload : Subject) (args : Arguments) (context : Context) :
    Except Failure Unit :=
  match payload with
  | .string text => do
    match ← expandMain r "pattern" "pattern" args payload context with
    | .string source =>
      match Pattern.read? source with
      | none =>
        .error (((Failure.configuration ("invalid pattern '" ++ source ++ "'"))
          |>.withOrigin "pattern").withCause .unreadable)
      | some pattern =>
        if pattern.occursIn text then .ok ()
        else
          .error ((Failure.invalidData "pattern" payload
            ["'" ++ text ++ "' does not match pattern '" ++ source ++ "'"]).withArguments args)
    | other =>
      .error ((Failure.configuration
        ("'pattern' validator needs a pattern string, found " ++ other.typeName))
          |>.withOrigin "pattern")
  | other => .error ((Failure.invalidType "pattern" "string" other []).withArguments args)

/-- The built-in operations by name. -/
def operations (r : Resolver) : List (String × Operation) :=
  [("upper", .transformer (onString "upper" Text.toUpper)),
   ("lower", .transformer (onString "lower" Text.toLower)),
   ("trim", .transformer (onString "trim" Text.trim)),
   ("default", .transformer (fillNull r)),
   ("map", .transformer (lookUp r)),
   ("compact", .transformer dropNulls),
   ("required", .validator required),
   ("type", .validator (typeIs r)),
   ("pattern", .validator (matchesPattern r))]

end Gleaner.BuiltIn

/-- The catalogue of the built-in stages. -/
def Gleaner.Catalogue.builtIn (r : Gleaner.Resolver) : Gleaner.Catalogue :=
  ⟨Gleaner.BuiltIn.operations r⟩
