import Gleaner.Argument.Reader
import Gleaner.Resolver

/-!
# Expanding arguments

A stage asks for an argument by key and has it expanded against the payload: a deferred value is
resolved, a nested list becomes a map. Expansion goes one level deep. A list inside that list stays
as it is, with its deferred values as markers.
-/

namespace Gleaner

namespace Arguments

/-- The value under a key, or another if there is none. -/
def getD (key : Key) (fallback : ArgumentValue) (args : Arguments) : ArgumentValue :=
  (args.get? key).getD fallback

/-- The payload, the context and the resolver against which values are expanded. -/
structure Scope where
  resolver : Resolver
  payload : Subject
  context : Context

namespace Scope

def extract (scope : Scope) (e : Extraction) : Except Failure Subject :=
  scope.resolver.resolve scope.payload e.accessor scope.context

end Scope

/-- The key that a resolved extraction gives: a text or an integer. -/
def keyOfSubject (e : Extraction) : Subject → Except Failure Key
  | .string s => .ok (.text s)
  | .int n => .ok (.int n)
  | other =>
    .error (.configuration ("argument key " ++ e.display ++
      " must resolve to a string or integer, received " ++ other.typeName))

def expandKey (scope : Scope) : EffectiveKey → Except Failure Key
  | .literal key => .ok key
  | .extraction e => do keyOfSubject e (← scope.extract e)

/-- Resolve a deferred value; a nested list stays as it is. -/
def expandChild (scope : Scope) : ArgumentValue → Except Failure ArgumentValue
  | .extraction e => (scope.extract e).map .literal
  | other => .ok other

/-- Expand the keys and values of a list, each key before its value. A later argument with a key
that occurred takes the place of the earlier one. -/
def expandChildren (args : Arguments) (scope : Scope) :
    Except Failure (List (Key × ArgumentValue)) := do
  let children ← args.entries.mapM fun (key, value) => do
    let key ← expandKey scope key
    let value ← expandChild scope value
    .ok (key, value)
  .ok (Entries.ofPairs children)

/-- Expand a list to a map. -/
def expand (args : Arguments) (scope : Scope) : Except Failure Subject := do
  let children ← args.expandChildren scope
  .ok (.map (children.map fun (key, value) => (key, value.unexpanded)))

end Arguments

/-- Expand one value. -/
def ArgumentValue.expand (scope : Arguments.Scope) : ArgumentValue → Except Failure Subject
  | .literal value => .ok value
  | .extraction e => scope.extract e
  | .nested items => Arguments.expand items scope

namespace Arguments

/-- The value under a key, expanded; the fallback is expanded too. -/
def getExpanded (key : Key) (fallback : ArgumentValue) (args : Arguments) (scope : Scope) :
    Except Failure Subject :=
  (args.getD key fallback).expand scope

end Arguments

end Gleaner
