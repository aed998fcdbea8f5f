import Gleaner.Subject

/-!
# Contexts

A context holds named subjects beside the one under inspection. A path reaches them by scope.
-/

namespace Gleaner

structure Context where
  entries : List (Key × Subject)
deriving Inhabited

namespace Context

def empty : Context := ⟨[]⟩

def insert (key : Key) (value : Subject) (c : Context) : Context :=
  ⟨Entries.insert key value c.entries⟩

def get? (key : Key) (c : Context) : Option Subject :=
  Entries.get? key c.entries

/-- The entry with a textual name: the text key if there is one, else the integer key it denotes. -/
def lookup? (name : String) (c : Context) : Option Subject :=
  (c.get? (.text name)).or ((Key.readInt? name).bind fun key => c.get? key)

def size (c : Context) : Nat :=
  c.entries.length

def isEmpty (c : Context) : Bool :=
  c.entries.isEmpty

/-- The context that a document gives: only an object gives one. -/
def ofJson? (document : Json) : Option Context :=
  match Subject.ofJson document with
  | .map entries => some ⟨entries⟩
  | _ => none

end Context

end Gleaner
