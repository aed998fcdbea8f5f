import Gleaner.Json.Basic

/-!
# Telling documents apart

Equality of documents is decidable: numbers are compared by their bits, members in their order.
-/

namespace Gleaner.Json

mutual

/-- Whether two documents are the same value. -/
def same : Json → Json → Bool
  | null, null => true
  | bool a, bool b => a = b
  | int a, int b => a = b
  | float a, float b => a = b
  | string a, string b => a = b
  | array a, array b => sameItems a b
  | object a, object b => sameMembers a b
  | _, _ => false

def sameItems : List Json → List Json → Bool
  | [], [] => true
  | a :: as, b :: bs => same a b && sameItems as bs
  | _, _ => false

def sameMembers : List (String × Json) → List (String × Json) → Bool
  | [], [] => true
  | (k, a) :: as, (l, b) :: bs => k = l && same a b && sameMembers as bs
  | _, _ => false

end

mutual

theorem same_iff : (a b : Json) → (same a b = true ↔ a = b)
  | null, b => by cases b <;> simp [same]
  | bool a, b => by cases b <;> simp [same]
  | int a, b => by cases b <;> simp [same]
  | float a, b => by cases b <;> simp [same]
  | string a, b => by cases b <;> simp [same]
  | array a, b => by
    cases b with
    | array b => simp [same, sameItems_iff a b]
    | _ => simp [same]
  | object a, b => by
    cases b with
    | object b => simp [same, sameMembers_iff a b]
    | _ => simp [same]

theorem sameItems_iff : (a b : List Json) → (sameItems a b = true ↔ a = b)
  | [], b => by cases b <;> simp [sameItems]
  | x :: xs, b => by
    cases b with
    | nil => simp [sameItems]
    | cons y ys => simp [sameItems, same_iff x y, sameItems_iff xs ys]

theorem sameMembers_iff : (a b : List (String × Json)) → (sameMembers a b = true ↔ a = b)
  | [], b => by cases b <;> simp [sameMembers]
  | (k, x) :: xs, b => by
    cases b with
    | nil => simp [sameMembers]
    | cons y ys => simp [sameMembers, same_iff x y.2, sameMembers_iff xs ys, Prod.ext_iff]

end

instance : DecidableEq Json := fun a b => decidable_of_iff _ (same_iff a b)

end Gleaner.Json
