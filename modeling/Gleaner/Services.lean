import Gleaner.Extractor

/-!
# Services

The collaborators that a program is built from are entered under identifiers. Asking for one names
the type that is expected; what is missing and what is of another type are different failures.
-/

namespace Gleaner

inductive Service where
  | resolver (r : Resolver)
  | arguments (r : Resolver)
  | stages (c : Catalogue)
  | text (s : String)

/-- The types of services. -/
inductive ServiceType where
  | resolver
  | arguments
  | stages
  | text
deriving DecidableEq, Inhabited

/-- The name of a type of services in messages. -/
def ServiceType.name : ServiceType → String
  | resolver => "tractor_core::accessor::resolver::Resolver"
  | arguments => "tractor_core::arguments::provider::ArgumentProvider"
  | stages => "tractor_core::transformer::StageRegistry"
  | text => "alloc::string::String"

def Service.type : Service → ServiceType
  | resolver _ => .resolver
  | arguments _ => .arguments
  | stages _ => .stages
  | text _ => .text

structure Services where
  entries : List (String × Service)

namespace Services

def resolverId : String := "accessor.resolver"

def argumentsId : String := "argument.provider"

def stagesId : String := "stage.registry"

def empty : Services := ⟨[]⟩

/-- Enter a service, in place of any other with the identifier. -/
def insert (id : String) (service : Service) (s : Services) : Services :=
  ⟨Entries.insert id service s.entries⟩

def contains (id : String) (s : Services) : Bool :=
  Entries.contains id s.entries

/-- The resolver, the arguments and the built-in stages. -/
def standard (r : Resolver) : Services :=
  ((empty.insert resolverId (.resolver r)).insert argumentsId (.arguments r)).insert stagesId
    (.stages (.builtIn r))

/-- The service with an identifier, which has to be of a type. -/
def get (id : String) (type : ServiceType) (s : Services) : Except Failure Service :=
  match Entries.get? id s.entries with
  | none => .error (.notFound id)
  | some service =>
    if service.type = type then .ok service else .error (.invalidInstance id type.name)

def resolver (s : Services) : Except Failure Resolver := do
  match ← s.get resolverId .resolver with
  | .resolver r => .ok r
  | _ => .error (.invalidInstance resolverId ServiceType.resolver.name)

def catalogue (s : Services) : Except Failure Catalogue := do
  match ← s.get stagesId .stages with
  | .stages c => .ok c
  | _ => .error (.invalidInstance stagesId ServiceType.stages.name)

/-- The extractor made of the resolver and the stages. -/
def extractor (s : Services) : Except Failure Extractor := do
  let r ← s.resolver
  let c ← s.catalogue
  .ok ⟨r, c⟩

/-- One line that lists the identifiers in order. -/
def describe (s : Services) : String :=
  "Registry \x7b services: " ++
    Text.quotedList ((s.entries.map Prod.fst).mergeSort fun a b => decide (a ≤ b)) ++ " \x7d"

end Services

end Gleaner
