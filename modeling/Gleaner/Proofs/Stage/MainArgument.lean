import Gleaner.Proofs.Argument.Precedence
import Gleaner.Proofs.Stage.Refusal

/-!
# The main argument of a stage

Four of the built-in stages work with an argument. It is looked for in three places: under its name,
under the integer key 0, and where the first argument without a key stands. The lookup for the name
takes what the lookup for the position found as its fallback, and so the first of the three places
that has a value decides.

Before it asks for the argument, a stage looks at the payload. Once that is admitted, a failure of
the expansion becomes the cause of the failure of the stage, and any other outcome depends on the
arguments only through the value that they expand to. One stage knows a second argument, for
payloads without an entry in its table; where there is an entry, that argument may be anything.
-/

namespace Gleaner

namespace Arguments

def without (key : Key) (args : Arguments) : Arguments :=
  args.filter fun arg => arg.1 ≠ .literal key

variable {args : Arguments} {key other : Key}

end Arguments

/-- The built-in stages that work with an argument. -/
inductive MainStage where
  | default
  | map
  | type
  | pattern
deriving DecidableEq

namespace MainStage

open BuiltIn

def stage : MainStage → String
  | default => "default"
  | map => "map"
  | type => "type"
  | pattern => "pattern"

def argument : MainStage → String
  | default => "value"
  | map => "values"
  | type => "type"
  | pattern => "pattern"

def operation (r : Resolver) : MainStage → Operation
  | default => .transformer (fillNull r)
  | map => .transformer (lookUp r)
  | type => .validator (typeIs r)
  | pattern => .validator (matchesPattern r)

variable {r : Resolver} {m : MainStage} {args : Arguments} {payload x y : Subject}
  {context : Context}

end MainStage

end Gleaner
