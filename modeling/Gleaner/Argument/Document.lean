import Gleaner.Argument.Basic

/-!
# Arguments as documents and as data

An argument list is shown in two ways: as a document, in reports, and as a subject, where a stage is
given a list that stays unexpanded. Both use effective keys, both write an extraction as an object
whose only member is the extraction marker, and they agree unless two keys of one list have the same
text.
-/

namespace Gleaner

def extractMarker : String := "$extract"

def literalMarker : String := "$literal"

def keyMarker : String := "$key"

def valueMarker : String := "$value"

/-- The document that configures an accessor. -/
def Accessor.toJson : Accessor → Json
  | .path text => .string text
  | .computed inner => .object [(extractMarker, inner.toJson)]

/-- The document that stands for a deferred value. -/
def Extraction.marker (e : Extraction) : Json :=
  .object [(extractMarker, e.accessor.toJson)]

namespace Arguments.EffectiveKey

/-- The key as the name of a document member. -/
def text : EffectiveKey → String
  | literal key => key.segment
  | extraction e => e.display

/-- The key as the key of a map entry. -/
def toKey : EffectiveKey → Key
  | literal key => key
  | extraction e => .text e.display

end Arguments.EffectiveKey

mutual

/-- An argument value as reports show it. -/
def ArgumentValue.toJson : ArgumentValue → Json
  | .literal value => value.toJson
  | .extraction e => e.marker
  | .nested items => .object (Entries.ofPairs (Arguments.toJsonFrom 0 items))

def Arguments.toJsonFrom (position : Nat) :
    List (ArgumentKey × ArgumentValue) → List (String × Json)
  | [] => []
  | (k, v) :: rest =>
    ((Arguments.effectiveKey position k).text, v.toJson) ::
      Arguments.toJsonFrom (Arguments.positionAfter position k) rest

end

/-- An argument list as reports show it. -/
def Arguments.toJson (args : Arguments) : Json :=
  .object (Entries.ofPairs (toJsonFrom 0 args))

mutual

/-- An argument value as data, nothing in it resolved. -/
def ArgumentValue.unexpanded : ArgumentValue → Subject
  | .literal value => value
  | .extraction e => .ofJson e.marker
  | .nested items => .map (Entries.ofPairs (Arguments.unexpandedFrom 0 items))

def Arguments.unexpandedFrom (position : Nat) :
    List (ArgumentKey × ArgumentValue) → List (Key × Subject)
  | [] => []
  | (k, v) :: rest =>
    ((Arguments.effectiveKey position k).toKey, v.unexpanded) ::
      Arguments.unexpandedFrom (Arguments.positionAfter position k) rest

end

end Gleaner
