/-!
# Ordered entries

Maps, contexts and documents keep their entries in the order of insertion. They are all held as
lists of pairs: writing a key that is present changes its value and moves nothing, writing a new key
puts it at the end.
-/

namespace Gleaner.Entries

variable {α β γ : Type} [DecidableEq α]

/-- The value stored under the first occurrence of `key`. -/
def get? (key : α) : List (α × β) → Option β
  | [] => none
  | (k, v) :: rest => if k = key then some v else get? key rest

/-- Write `value` under `key`, keeping the position of a key that is present. -/
def insert (key : α) (value : β) : List (α × β) → List (α × β)
  | [] => [(key, value)]
  | (k, v) :: rest => if k = key then (k, value) :: rest else (k, v) :: insert key value rest

/-- Write all pairs in order, starting from `entries`. -/
def insertAll (entries : List (α × β)) (pairs : List (α × β)) : List (α × β) :=
  pairs.foldl (fun acc pair => insert pair.1 pair.2 acc) entries

/-- The entries that a list of pairs denotes: a repeated key keeps its first position and takes its
last value. -/
def ofPairs (pairs : List (α × β)) : List (α × β) :=
  insertAll [] pairs

def contains (key : α) (entries : List (α × β)) : Bool :=
  (get? key entries).isSome

@[simp] theorem get?_nil (key : α) : get? key ([] : List (α × β)) = none := rfl

theorem get?_insert (key : α) (value : β) (entries : List (α × β)) (other : α) :
    get? other (insert key value entries) =
      if key = other then some value else get? other entries := by
  induction entries with
  | nil => simp [insert, get?]
  | cons pair rest ih =>
    obtain ⟨k, v⟩ := pair
    by_cases hk : k = key
    · subst hk
      by_cases ho : k = other <;> simp [insert, get?, ho]
    · by_cases ho : k = other
      · subst ho
        simp [insert, get?, hk, Ne.symm hk]
      · simp [insert, get?, hk, ho, ih]

theorem keys_insert (key : α) (value : β) (entries : List (α × β)) :
    (insert key value entries).map Prod.fst =
      if key ∈ entries.map Prod.fst then entries.map Prod.fst
      else entries.map Prod.fst ++ [key] := by
  induction entries with
  | nil => simp [insert]
  | cons pair rest ih =>
    obtain ⟨k, v⟩ := pair
    by_cases hk : k = key
    · simp [insert, hk]
    · have hk' : ¬ key = k := fun h => hk h.symm
      simp only [insert, if_neg hk, List.map_cons, ih, List.mem_cons, hk', false_or,
        List.cons_append]
      by_cases hm : key ∈ rest.map Prod.fst
      · rw [if_pos hm, if_pos hm]
      · rw [if_neg hm, if_neg hm]

end Gleaner.Entries
