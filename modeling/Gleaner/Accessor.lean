import Gleaner.Json.Basic

/-!
# Accessors

An accessor is a path, or it is computed: the path is then what another accessor yields. An
extraction is an accessor that stands in place of a value and is resolved when the value is asked
for.
-/

namespace Gleaner

inductive Accessor where
  | path (text : String)
  | computed (inner : Accessor)
deriving DecidableEq, Inhabited

namespace Accessor

/-- The empty path, which yields the subject itself. -/
def identity : Accessor := path ""

/-- The number of computed layers. -/
def depth : Accessor → Nat
  | path _ => 0
  | computed inner => inner.depth + 1

def asPath? : Accessor → Option String
  | path text => some text
  | computed _ => none

/-- A computed layer is written as a pair of braces. -/
def display : Accessor → String
  | path text => text
  | computed inner => "\x7b" ++ inner.display ++ "\x7d"

end Accessor

structure Extraction where
  accessor : Accessor
deriving DecidableEq, Inhabited

namespace Extraction

def display (e : Extraction) : String :=
  "\x7b" ++ e.accessor.display ++ "\x7d"

/-- An extraction used as an accessor is one more computed layer. -/
def toAccessor (e : Extraction) : Accessor :=
  .computed e.accessor

end Extraction

end Gleaner
