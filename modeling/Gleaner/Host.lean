import Gleaner.Failure

/-!
# Hosts

A host answers for its objects: what a declared field holds, what the dynamic getter says of any
other name, and what a method returns. The answers are fixed for an object and a name. A dynamic
getter or a method may not know the name, and may fail.
-/

namespace Gleaner

structure Host where
  field : HostObject → String → Option Subject
  dynamicField : HostObject → String → Option (Except Cause Subject)
  call : HostObject → String → Option (Except Cause Subject)

/-- The host that knows no name of any object. -/
def Host.silent : Host :=
  { field := fun _ _ => none
    dynamicField := fun _ _ => none
    call := fun _ _ => none }

instance : Inhabited Host := ⟨Host.silent⟩

end Gleaner
