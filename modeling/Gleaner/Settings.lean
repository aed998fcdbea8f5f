import Gleaner.Json.Record
import Gleaner.Resolver

/-!
# Settings of the engine

The engine has one setting, the limit on nestings, in a section of its own. What a document leaves
out keeps its default.
-/

namespace Gleaner

structure EngineSettings where
  maxDepth : Nat
deriving DecidableEq, Inhabited

namespace EngineSettings

def standard : EngineSettings := ⟨Resolver.standardDepth⟩

/-- The section on the resolver. -/
def resolverForm : RecordForm EngineSettings :=
  { title := "ResolverConfig"
    fields :=
      [{ names := ["max_depth"]
         put := fun v settings => v.asCount.map fun maxDepth => { settings with maxDepth }
         required := false }]
    initial := standard }

def form : RecordForm EngineSettings :=
  { title := "EngineConfig"
    fields :=
      [{ names := ["resolver"], put := fun v _ => resolverForm.read v, required := false }]
    initial := standard }

def toJson (settings : EngineSettings) : Json :=
  .object [("resolver", .object [("max_depth", .int settings.maxDepth)])]

/-- The resolver with these settings. -/
def resolver (settings : EngineSettings) (host : Host) : Resolver :=
  ⟨settings.maxDepth, host⟩

end EngineSettings

end Gleaner
