import Gleaner.Context
import Gleaner.Host
import Gleaner.Path.Segment

/-!
# Resolving accessors

A path is resolved from left to right: what one segment yields is the subject of the next. Computed
layers and scopes with a remainder may be nested only to a limit. The functions below count down
what is left of it, so `budget` is the number of further nestings that are allowed, and reaching for
one more than that is the depth failure.
-/

namespace Gleaner

structure Resolver where
  maxDepth : Nat
  host : Host

namespace Resolver

/-- The limit on nestings unless another is configured. -/
def standardDepth : Nat := 32

def depthFailure (r : Resolver) (accessor : String) (subject : Subject) : Failure :=
  .extraction accessor subject.typeName
    ("maximum accessor depth of " ++ Numeral.ofNat r.maxDepth ++
      " exceeded (nested '::' or computed accessors)")

/-- Invoke a method on an object; nothing else has methods. -/
def invokeOnce (r : Resolver) (segment method : String) : Subject → Except Failure Subject
  | .object o =>
    match r.host.call o method with
    | some (.ok value) => .ok value
    | some (.error cause) =>
      .error ((Failure.extraction segment o.typeName
        ("invocation of '" ++ method ++ "()' failed")).withCause cause)
    | none =>
      .error (.extraction segment o.typeName
        ("method '" ++ method ++ "' is not callable on " ++ o.typeName))
  | other =>
    .error (.extraction segment other.typeName
      ("cannot invoke '" ++ method ++ "()' on " ++ other.typeName))

/-- Invoke a method on every element of a collection, or on the subject itself. -/
def invoke (r : Resolver) (segment method : String) : Subject → Except Failure Subject
  | .sequence items => (items.mapM (r.invokeOnce segment method)).map .sequence
  | .map entries =>
    (entries.mapM fun ((key, item) : Key × Subject) =>
      (r.invokeOnce segment method item).map fun value => (key, value)).map .map
  | other => r.invokeOnce segment method other

/-- The map entry with a textual name: the text key if there is one, else the integer key. -/
def named? (name : String) (entries : List (Key × Subject)) : Option Subject :=
  (Entries.get? (.text name) entries).or
    ((Key.readInt? name).bind fun key => Entries.get? key entries)

/-- Read a map key, a sequence index or a field of an object. -/
def lookup (r : Resolver) (name : String) : Subject → Except Failure Subject
  | .map entries =>
    match named? name entries with
    | some value => .ok value
    | none => .error (.extraction name "map" ("key '" ++ name ++ "' not found in map"))
  | .sequence items =>
    match (Numeral.readIndex? name).bind fun i => items[i]? with
    | some value => .ok value
    | none =>
      .error (.extraction name "sequence"
        ("index '" ++ name ++ "' not found in sequence of length " ++ Numeral.ofNat items.length))
  | .object o =>
    match r.host.field o name with
    | some value => .ok value
    | none =>
      match r.host.dynamicField o name with
      | some (.ok value) => .ok value
      | some (.error cause) =>
        .error ((Failure.extraction name o.typeName
          ("reading field '" ++ name ++ "' failed")).withCause cause)
      | none =>
        .error (.extraction name o.typeName
          ("field '" ++ name ++ "' is not accessible on " ++ o.typeName))
  | other =>
    .error (.extraction name other.typeName
      ("cannot read '" ++ name ++ "' from " ++ other.typeName))

/-- Resolve one segment. A scope with a remainder takes one nesting of the budget. -/
def resolveSegment (r : Resolver) (context : Context) :
    Nat → Subject → String → Except Failure Subject
  | budget, subject, segment =>
    match Segment.classify segment with
    | .scope entry rest =>
      match context.lookup? entry with
      | none =>
        .error (.extraction segment subject.typeName
          ("context entry '" ++ entry ++ "' not found"))
      | some found =>
        if Text.isBlank rest then .ok found
        else
          match budget with
          | 0 => .error (r.depthFailure segment subject)
          | budget + 1 => resolveSegment r context budget found rest
    | .call method => r.invoke segment method subject
    | .lookup name => r.lookup name subject

/-- Resolve the segments of a path from left to right. -/
def resolveChain (r : Resolver) (context : Context) (budget : Nat) (path : String)
    (subject : Subject) : Except Failure Subject :=
  (Path.segments path).foldlM (resolveSegment r context budget) subject

/-- Resolve an accessor. Both steps of a computed accessor, the inner accessor and the path that it
yields, are nested one deeper. -/
def resolveAccessor (r : Resolver) (context : Context) (subject : Subject) :
    Nat → Accessor → Except Failure Subject
  | budget, .path text => r.resolveChain context budget text subject
  | 0, .computed inner => .error (r.depthFailure inner.display subject)
  | budget + 1, .computed inner =>
    match resolveAccessor r context subject budget inner with
    | .error failure => .error failure
    | .ok .null => .ok subject
    | .ok (.string path) => r.resolveChain context budget path subject
    | .ok other =>
      .error (.extraction (Accessor.computed inner).display subject.typeName
        ("computed accessor must yield string, received " ++ other.typeName))

def resolve (r : Resolver) (subject : Subject) (accessor : Accessor) (context : Context) :
    Except Failure Subject :=
  r.resolveAccessor context subject r.maxDepth accessor

/-- Resolve a literal path; no path is the empty one. -/
def resolvePath (r : Resolver) (subject : Subject) (path : Option String) (context : Context) :
    Except Failure Subject :=
  r.resolveChain context r.maxDepth (path.getD "") subject

end Resolver

end Gleaner
