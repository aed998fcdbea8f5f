import Gleaner.Argument.Document

/-!
# Failures

A failure says what failed, in an ordered list of messages, and may hold the cause before it. Adding
to a failure never loses a message: a new message goes to the end, the messages of a cause go to the
front. A failure inside a pipeline is wrapped with the index of its stage; whatever is added to the
wrapper reaches the failure within.
-/

namespace Gleaner

/-- What failed, with the facts that are recorded for it. -/
inductive Site where
  /-- A segment or accessor could not be resolved. -/
  | extraction (accessor subjectType : String)
  /-- A transformation could not process its payload. -/
  | transformation (name : String) (arguments : Option Arguments) (data : Option Subject)
  /-- A validation refused a value. -/
  | invalidData (validator : String) (arguments : Option Arguments) (data : Option Subject)
  /-- A validation refused the type of a value. -/
  | invalidType (validator expected : String) (arguments : Option Arguments) (data : Option Subject)
  /-- A definition is malformed. -/
  | configuration (origin : Option String)
  /-- No service has the identifier. -/
  | notFound (service : String)
  /-- The service is not of the requested type. -/
  | invalidInstance (service expected : String)
deriving Inhabited

/-- The kinds of failures, for callers that tell them apart. -/
inductive FailureKind where
  | extraction
  | transformation
  | invalidData
  | invalidType
  | configuration
  | stage
  | notFound
  | invalidInstance
deriving DecidableEq, Repr, Inhabited

mutual

inductive Failure where
  | plain (site : Site) (messages : List String) (cause : Option Cause)
  | stage (index : Nat) (inner : Failure)

/-- What lies behind a failure: a failure of the engine, a fault of the host program, or a document
or pattern that a reader refused. -/
inductive Cause where
  | failure (f : Failure)
  | fault (text : String)
  | unreadable

end

instance : Inhabited Failure := ⟨.plain default [] none⟩

namespace FailureKind

/-- The name of the kind in reports. -/
def name : FailureKind → String
  | extraction => "Extraction"
  | transformation => "Transformation"
  | invalidData => "InvalidData"
  | invalidType => "InvalidType"
  | configuration => "Configuration"
  | stage => "Stage"
  | notFound => "NotFound"
  | invalidInstance => "InvalidInstance"

/-- The name of the kind in headings. -/
def title : FailureKind → String
  | extraction => "ExtractionError"
  | transformation => "TransformationError"
  | configuration => "ConfigurationError"
  | stage => "StageError"
  | other => other.name

end FailureKind

namespace Site

def kind : Site → FailureKind
  | extraction .. => .extraction
  | transformation .. => .transformation
  | invalidData .. => .invalidData
  | invalidType .. => .invalidType
  | configuration .. => .configuration
  | notFound .. => .notFound
  | invalidInstance .. => .invalidInstance

/-- The name of what failed. -/
def origin? : Site → Option String
  | extraction accessor _ => some accessor
  | transformation name _ _ => some name
  | invalidData validator _ _ => some validator
  | invalidType validator _ _ _ => some validator
  | configuration origin => origin
  | notFound service => some service
  | invalidInstance service _ => some service

def data? : Site → Option Subject
  | transformation _ _ data => data
  | invalidData _ _ data => data
  | invalidType _ _ _ data => data
  | _ => none

def arguments? : Site → Option Arguments
  | transformation _ arguments _ => arguments
  | invalidData _ arguments _ => arguments
  | invalidType _ _ arguments _ => arguments
  | _ => none

/-- Record arguments where the site has a place for them. -/
def withArguments (args : Arguments) : Site → Site
  | transformation name _ data => transformation name (some args) data
  | invalidData validator _ data => invalidData validator (some args) data
  | invalidType validator expected _ data => invalidType validator expected (some args) data
  | other => other

/-- Record the offending data where the site has a place for it. -/
def withData (value : Subject) : Site → Site
  | transformation name args _ => transformation name args (some value)
  | invalidData validator args _ => invalidData validator args (some value)
  | invalidType validator expected args _ => invalidType validator expected args (some value)
  | other => other

/-- Name the definition that is malformed. -/
def withOrigin (name : String) : Site → Site
  | configuration _ => configuration (some name)
  | other => other

/-- One line that says what failed and why. -/
def describe (messages : List String) (site : Site) : String :=
  let text := String.intercalate "; " messages
  match site with
  | extraction accessor subjectType =>
    "Extraction failed at '" ++ accessor ++ "' on " ++ subjectType ++ ": " ++ text
  | transformation name _ _ => "Transformation '" ++ name ++ "' failed: " ++ text
  | invalidData validator _ _ => "Validation '" ++ validator ++ "' failed: " ++ text
  | invalidType validator _ _ _ => "Validation '" ++ validator ++ "' failed: " ++ text
  | configuration _ => "Configuration error: " ++ text
  | notFound service => "Service '" ++ service ++ "' not found"
  | invalidInstance service expected => "Service '" ++ service ++ "' is not a " ++ expected

end Site

namespace Failure

/-! ### Making failures -/

def extraction (accessor subjectType message : String) : Failure :=
  plain (.extraction accessor subjectType) [message] none

def transformation (name : String) (messages : List String) : Failure :=
  plain (.transformation name none none) messages none

def invalidData (validator : String) (data : Subject) (messages : List String) : Failure :=
  plain (.invalidData validator none (some data)) messages none

/-- A last message names the type that was expected and the type of the data. -/
def invalidType (validator expected : String) (data : Subject) (messages : List String) : Failure :=
  plain (.invalidType validator expected none (some data))
    (messages ++ ["expected " ++ expected ++ ", received " ++ data.typeName]) none

def configurationAll (origin : Option String) (messages : List String) : Failure :=
  plain (.configuration origin) messages none

def configuration (message : String) : Failure :=
  configurationAll none [message]

def notFound (service : String) : Failure :=
  plain (.notFound service) [] none

def invalidInstance (service expected : String) : Failure :=
  plain (.invalidInstance service expected) [] none

/-! ### Reading failures -/

def kind : Failure → FailureKind
  | plain site _ _ => site.kind
  | stage _ _ => .stage

/-- All messages in order; a wrapper has those of the failure within. -/
def messages : Failure → List String
  | plain _ messages _ => messages
  | stage _ inner => inner.messages

/-- The name of what failed; a wrapper has that of the failure within. -/
def origin? : Failure → Option String
  | plain site _ _ => site.origin?
  | stage _ inner => inner.origin?

def data? : Failure → Option Subject
  | plain site _ _ => site.data?
  | stage _ _ => none

def arguments? : Failure → Option Arguments
  | plain site _ _ => site.arguments?
  | stage _ _ => none

def stageIndex? : Failure → Option Nat
  | plain _ _ _ => none
  | stage index _ => some index

/-- The cause before a failure; that of a wrapper is the failure within. -/
def cause? : Failure → Option Cause
  | plain _ _ cause => cause
  | stage _ inner => some (.failure inner)

def isValidation (f : Failure) : Bool :=
  f.kind = .invalidData ∨ f.kind = .invalidType

/-- The failure within all wrappers. -/
def unwrapped : Failure → Failure
  | plain site messages cause => plain site messages cause
  | stage _ inner => inner.unwrapped

/-- One line that says what failed and why. -/
def describe : Failure → String
  | plain site messages _ => site.describe messages
  | stage index inner => "Stage " ++ Numeral.ofNat index ++ " failed: " ++ inner.describe

/-! ### Adding to failures -/

/-- Change what is recorded for a failure; a wrapper has no place for any of it. -/
def onSite (change : Site → Site) : Failure → Failure
  | plain site messages cause => plain (change site) messages cause
  | stage index inner => stage index inner

def withArguments (args : Arguments) : Failure → Failure :=
  onSite (Site.withArguments args)

def withData (value : Subject) : Failure → Failure :=
  onSite (Site.withData value)

def withOrigin (name : String) : Failure → Failure :=
  onSite (Site.withOrigin name)

/-- Put a message behind the others. -/
def withMessage (message : String) : Failure → Failure
  | plain site messages cause => plain site (messages ++ [message]) cause
  | stage index inner => stage index (inner.withMessage message)

end Failure

/-- The messages that a cause brings along. -/
def Cause.messages : Cause → List String
  | .failure f => f.messages
  | .fault _ => []
  | .unreadable => []

namespace Failure

/-- Set the cause and put its messages before the others. -/
def withCause (cause : Cause) : Failure → Failure
  | plain site messages _ => plain site (cause.messages ++ messages) (some cause)
  | stage index inner => stage index (inner.withCause cause)

end Failure

/-! ### Reports -/

/-- The facts of a failure as they are written for diagnosis. -/
structure Report where
  kind : FailureKind
  origin : Option String
  stageIndex : Option Nat
  messages : List String
  arguments : Option Json
  data : Option Json

namespace Report

/-- A member for a fact that may be missing. -/
def member? (name : String) (value : Option Json) : List (String × Json) :=
  value.toList.map fun v => (name, v)

/-- Facts that are missing have no member. -/
def toJson (r : Report) : Json :=
  .object
    ([("kind", .string r.kind.name)] ++ member? "origin" (r.origin.map .string) ++
      member? "stage_index" (r.stageIndex.map fun i => .int i) ++
      [("messages", .texts r.messages)] ++ member? "arguments" r.arguments ++
      member? "data" r.data)

end Report

def Failure.report (f : Failure) : Report :=
  { kind := f.kind
    origin := f.origin?
    stageIndex := f.stageIndex?
    messages := f.messages
    arguments := f.arguments?.map Arguments.toJson
    data := f.data?.map Subject.toJson }

end Gleaner
