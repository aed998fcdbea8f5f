import Gleaner.Proofs.Path.Segments

/-!
# Chaining paths

The segments of two paths around a dot are those of the first and then those of the second, whatever
the two texts hold. Resolution goes through the segments from left to right, so it can be cut at any
dot of a path: the first half is resolved on the subject and the second half on what the first half
yields.
-/

namespace Gleaner

namespace Resolver

variable (r : Resolver) (context : Context)

theorem resolveChain_append (budget : Nat) (p q : String) (subject : Subject) :
    r.resolveChain context budget (p ++ "." ++ q) subject =
      r.resolveChain context budget p subject >>= r.resolveChain context budget q := by
  rw [resolveChain, Path.segments_append, List.foldlM_append]
  rfl

theorem resolveChain_of_not_mem (budget : Nat) {path : String} (h : '.' ∉ path.toList)
    (subject : Subject) :
    r.resolveChain context budget path subject =
      if Text.isBlank path then .ok subject
      else r.resolveSegment context budget subject path := by
  rw [resolveChain, Path.segments_of_not_mem h]
  split
  · rfl
  · exact bind_pure _

/-- A path resolves as its two sides of any dot do, one after the other: what the left side yields
is the subject of the right side, and a failure of the left side is the failure of the whole. -/
theorem resolvePath_dot (subject : Subject) (p q : String) :
    r.resolvePath subject (some (p ++ "." ++ q)) context =
      match r.resolvePath subject (some p) context with
      | .ok value => r.resolvePath value (some q) context
      | .error failure => .error failure := by
  simp only [resolvePath, Option.getD_some]
  rw [resolveChain_append]
  cases r.resolveChain context r.maxDepth p subject with
  | ok value => rfl
  | error failure => rfl

end Resolver

end Gleaner
