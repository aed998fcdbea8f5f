import Gleaner.Accessor
import Gleaner.Subject

/-!
# Arguments

A stage is configured by an ordered list of arguments. An argument has no key, a literal key or a
key computed from the payload, and its value is literal, computed from the payload, or itself a
list. The n-th argument without a key is addressed by the integer key n.
-/

namespace Gleaner

inductive ArgumentKey where
  | positional
  | literal (key : Key)
  | extraction (e : Extraction)
deriving DecidableEq, Inhabited

inductive ArgumentValue where
  | literal (value : Subject)
  | extraction (e : Extraction)
  | nested (items : List (ArgumentKey × ArgumentValue))
deriving Inhabited

abbrev Arguments := List (ArgumentKey × ArgumentValue)

namespace Arguments

/-- The value of the first argument with a literal key. -/
def explicit? (key : Key) : Arguments → Option ArgumentValue
  | [] => none
  | (k, v) :: rest => if k = .literal key then some v else explicit? key rest

/-- The values of the arguments without a key. -/
def positionals (args : Arguments) : List ArgumentValue :=
  (args.filter fun arg => arg.1 = .positional).map Prod.snd

/-- The value under a key: a literal key wins, an integer key addresses a position otherwise. -/
def get? (key : Key) (args : Arguments) : Option ArgumentValue :=
  (explicit? key args).or
    (match key with
      | .int n => if n < 0 then none else args.positionals[n.toInt.toNat]?
      | .text _ => none)

def contains (key : Key) (args : Arguments) : Bool :=
  (args.get? key).isSome

/-- A key under which an argument is found once positions are counted. -/
inductive EffectiveKey where
  | literal (key : Key)
  | extraction (e : Extraction)
deriving DecidableEq, Inhabited

/-- The effective key of an argument that has `position` positional arguments before it. -/
def effectiveKey (position : Nat) : ArgumentKey → EffectiveKey
  | .positional => .literal (.ofPosition position)
  | .literal key => .literal key
  | .extraction e => .extraction e

/-- The number of positional arguments after one more argument. -/
def positionAfter (position : Nat) : ArgumentKey → Nat
  | .positional => position + 1
  | .literal _ => position
  | .extraction _ => position

def entriesFrom (position : Nat) : Arguments → List (EffectiveKey × ArgumentValue)
  | [] => []
  | (k, v) :: rest => (effectiveKey position k, v) :: entriesFrom (positionAfter position k) rest

/-- Every argument with its effective key, in order. -/
def entries (args : Arguments) : List (EffectiveKey × ArgumentValue) :=
  entriesFrom 0 args

end Arguments

end Gleaner
