import Gleaner.Argument.Expansion
import Gleaner.Text.Quoted

/-!
# Stages

A stage takes a payload to another one, or fails. It comes from an operation and the arguments that
the operation was configured with. A transformer reshapes the payload; a validator looks at it and
passes it on as it is.
-/

namespace Gleaner

structure Stage where
  name : String
  apply : Subject → Context → Except Failure Subject

inductive Operation where
  | transformer (transform : Subject → Arguments → Context → Except Failure Subject)
  | validator (validate : Subject → Arguments → Context → Except Failure Unit)

namespace Operation

/-- The stage that applies an operation with fixed arguments. -/
def bind (operation : Operation) (name : String) (args : Arguments) : Stage :=
  match operation with
  | transformer transform => ⟨name, fun payload context => transform payload args context⟩
  | validator validate =>
    ⟨name, fun payload context => (validate payload args context).map fun _ => payload⟩

end Operation

/-- A stage by name, with its arguments. -/
structure Transformation where
  name : String
  arguments : Arguments
deriving Inhabited

/-- The operations known by name, in the order in which they were entered. -/
structure Catalogue where
  operations : List (String × Operation)

namespace Catalogue

def empty : Catalogue := ⟨[]⟩

/-- Enter an operation; a name that is known keeps its place. -/
def insert (name : String) (operation : Operation) (c : Catalogue) : Catalogue :=
  ⟨Entries.insert name operation c.operations⟩

def contains (name : String) (c : Catalogue) : Bool :=
  Entries.contains name c.operations

def names (c : Catalogue) : List String :=
  c.operations.map Prod.fst

/-- The stage with a name, configured with arguments. -/
def stage (c : Catalogue) (t : Transformation) : Except Failure Stage :=
  match Entries.get? t.name c.operations with
  | some operation => .ok (operation.bind t.name t.arguments)
  | none =>
    .error ((Failure.configuration ("unknown stage '" ++ t.name ++ "'")).withOrigin t.name)

/-- One line that lists the names. -/
def describe (c : Catalogue) : String :=
  "StageRegistry \x7b operations: " ++ Text.quotedList c.names ++ " \x7d"

end Catalogue

end Gleaner
