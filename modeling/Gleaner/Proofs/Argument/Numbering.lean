import Gleaner.Proofs.Argument.Unexpanded

/-!
# Counting arguments and looking them up

The arguments without a key are counted in one traversal of a list, by those who show or expand it,
and found in another, by their place among each other. Both number such an argument by the arguments
without a key in front of it. So an argument is found under the key that the counting gave it,
unless the same key is written out somewhere in the list.

Whoever reads a list that has been counted has nothing to read in place of a missing key. With the
keys kept as keys of arguments, that would be the end of the traversal. None is missing, so each of
the readers gets to the end of the list.
-/

namespace Gleaner

/-- The key that is read off an argument; none is read where it is missing. -/
def ArgumentKey.read? : ArgumentKey → Option Arguments.EffectiveKey
  | positional => none
  | literal key => some (.literal key)
  | extraction e => some (.extraction e)

namespace Arguments

variable {args : Arguments} {key : Key} {value : ArgumentValue} {α : Type}

/-- The number of arguments without a key in front of a place. -/
def position (args : Arguments) (index : Nat) : Nat :=
  (positionals (args.take index)).length

/-- What counting makes of a key that has so many missing ones before it. -/
inductive Counted (position : Nat) : ArgumentKey → EffectiveKey → Prop
  | positional {n : Int64} (h : n.toInt = position) :
      Counted position .positional (.literal (.int n))
  | literal (key : Key) : Counted position (.literal key) (.literal key)
  | extraction (e : Extraction) : Counted position (.extraction e) (.extraction e)

def numberedFrom (position : Nat) : Arguments → Arguments
  | [] => []
  | (.positional, value) :: rest =>
    (.literal (.ofPosition position), value) :: numberedFrom (position + 1) rest
  | (.literal key, value) :: rest => (.literal key, value) :: numberedFrom position rest
  | (.extraction e, value) :: rest => (.extraction e, value) :: numberedFrom position rest

def numbered (args : Arguments) : Arguments :=
  numberedFrom 0 args

def readAll? (read : EffectiveKey → ArgumentValue → α) : Arguments → Option (List α)
  | [] => some []
  | (key, value) :: rest =>
    key.read?.bind fun key => (readAll? read rest).map (read key value :: ·)

/-! ### Reading what has been counted -/

/-- Reading a list ends early exactly at a key that is missing. -/
theorem readAll?_eq_none_iff (read : EffectiveKey → ArgumentValue → α) :
    readAll? read args = none ↔ ∃ arg ∈ args, arg.1 = .positional := by
  induction args with
  | nil => simp [readAll?]
  | cons arg rest ih =>
    obtain ⟨k, v⟩ := arg
    rw [readAll?]
    cases k with
    | positional => simp [ArgumentKey.read?]
    | literal key => simp [ArgumentKey.read?, ih]
    | extraction e => simp [ArgumentKey.read?, ih]

theorem readAll?_numberedFrom (read : EffectiveKey → ArgumentValue → α) (position : Nat)
    (args : Arguments) :
    readAll? read (numberedFrom position args) =
      some ((entriesFrom position args).map fun entry => read entry.1 entry.2) := by
  induction args generalizing position with
  | nil => rfl
  | cons arg rest ih =>
    obtain ⟨k, v⟩ := arg
    cases k with
    | positional => rw [numberedFrom, readAll?, ih]; rfl
    | literal key => rw [numberedFrom, readAll?, ih]; rfl
    | extraction e => rw [numberedFrom, readAll?, ih]; rfl

theorem readAll?_numbered (read : EffectiveKey → ArgumentValue → α) (args : Arguments) :
    readAll? read args.numbered = some (args.entries.map fun entry => read entry.1 entry.2) :=
  readAll?_numberedFrom read 0 args

theorem numbered_ne_positional : ∀ arg ∈ args.numbered, arg.1 ≠ .positional := by
  intro arg harg hmissing
  have hnone := (readAll?_eq_none_iff Prod.mk).2 ⟨arg, harg, hmissing⟩
  rw [readAll?_numbered] at hnone
  cases hnone

/-! ### Places -/

theorem getElem?_entries (args : Arguments) (index : Nat) :
    args.entries[index]? =
      args[index]?.map fun arg => (effectiveKey (args.position index) arg.1, arg.2) := by
  rw [entries_eq_mapIdx, List.getElem?_mapIdx]
  rfl

theorem position_cons_positional (v : ArgumentValue) (args : Arguments) (index : Nat) :
    position ((.positional, v) :: args) (index + 1) = args.position index + 1 := by
  rw [position, List.take_succ_cons, positionals_cons, List.length_cons, position]

theorem position_cons_of_ne {k : ArgumentKey} (hk : k ≠ .positional) (v : ArgumentValue)
    (args : Arguments) (index : Nat) :
    position ((k, v) :: args) (index + 1) = args.position index := by
  rw [position, List.take_succ_cons, positionals_cons_of_ne k hk, position]

theorem getElem?_positionals_eq_some_iff {n : Nat} :
    args.positionals[n]? = some value ↔
      ∃ index, args[index]? = some (.positional, value) ∧ args.position index = n := by
  induction args generalizing n with
  | nil => simp [positionals]
  | cons arg rest ih =>
    obtain ⟨k, v⟩ := arg
    by_cases hk : k = .positional
    · subst hk
      rw [positionals_cons]
      cases n with
      | zero =>
        constructor
        · intro h
          exact ⟨0, by simpa using h, rfl⟩
        · rintro ⟨index, hindex, hposition⟩
          cases index with
          | zero => simpa using hindex
          | succ index =>
            rw [position_cons_positional] at hposition
            omega
      | succ n =>
        rw [List.getElem?_cons_succ, ih]
        constructor
        · rintro ⟨index, hindex, rfl⟩
          exact ⟨index + 1, hindex, position_cons_positional v rest index⟩
        · rintro ⟨index, hindex, hposition⟩
          cases index with
          | zero => cases hposition
          | succ index =>
            rw [position_cons_positional] at hposition
            exact ⟨index, hindex, by omega⟩
    · rw [positionals_cons_of_ne k hk, ih]
      constructor
      · rintro ⟨index, hindex, rfl⟩
        exact ⟨index + 1, hindex, position_cons_of_ne hk v rest index⟩
      · rintro ⟨index, hindex, hposition⟩
        cases index with
        | zero => simp [hk] at hindex
        | succ index =>
          rw [position_cons_of_ne hk] at hposition
          exact ⟨index, hindex, hposition⟩

theorem position_lt {index : Nat} (h : args[index]? = some (.positional, value)) :
    args.position index < args.positionals.length :=
  (List.getElem?_eq_some_iff.1 (getElem?_positionals_eq_some_iff.2 ⟨index, h, rfl⟩)).1

theorem position_lt_position {first second : Nat} (h : args[first]? = some (.positional, value))
    (hlt : first < second) : args.position first < args.position second := by
  obtain ⟨hfirst, harg⟩ := List.getElem?_eq_some_iff.1 h
  have hnext : args.position (first + 1) = args.position first + 1 := by
    simp [position, positionals, List.take_succ_eq_append_getElem hfirst, harg]
  have hle : args.position (first + 1) ≤ args.position second := by
    simp only [position, positionals, List.length_map]
    exact ((List.take_sublist_take_left hlt).filter _).length_le
  omega

theorem counted_effectiveKey {position : Nat} {k : ArgumentKey}
    (h : k = .positional → position < 2 ^ 63) : Counted position k (effectiveKey position k) := by
  cases k with
  | positional => exact .positional (Int64.toInt_ofNat_of_lt (h rfl))
  | literal key => exact .literal key
  | extraction e => exact .extraction e

/-! ### Looking up -/

theorem explicit?_eq_some_iff : args.explicit? key = some value ↔
    ∃ before after, args = before ++ (.literal key, value) :: after ∧
      ArgumentKey.literal key ∉ before.map Prod.fst := by
  rw [explicit?_eq_get?, Entries.get?_eq_some_iff]

theorem explicit?_eq_none_iff :
    args.explicit? key = none ↔ ArgumentKey.literal key ∉ args.map Prod.fst := by
  rw [explicit?_eq_get?, Entries.get?_eq_none_iff]

/-- An integer that is no key in the list finds the argument at that position. -/
theorem get?_eq_some_iff_of_explicit?_eq_none (hcount : args.positionals.length ≤ 2 ^ 63)
    (hnone : args.explicit? key = none) :
    args.get? key = some value ↔
      ∃ n, key = .ofPosition n ∧ args.positionals[n]? = some value := by
  constructor
  · intro h
    rw [get?.eq_def, hnone, Option.none_or] at h
    cases key with
    | text s => cases h
    | int n =>
      simp only at h
      split at h
      · cases h
      · rename_i hn
        exact ⟨n.toInt.toNat, (ofPosition_toNat hn).symm, h⟩
  · rintro ⟨n, rfl, hvalue⟩
    have hlt : n < 2 ^ 63 := Nat.lt_of_lt_of_le (List.getElem?_eq_some_iff.1 hvalue).1 hcount
    rw [get?_ofPosition hlt hnone, hvalue]

theorem get?_eq_some_iff (hcount : args.positionals.length ≤ 2 ^ 63) :
    args.get? key = some value ↔
      args.explicit? key = some value ∨ args.explicit? key = none ∧
        ∃ index : Nat, args[index]? = some (ArgumentKey.positional, value) ∧
          args.entries[index]? = some (EffectiveKey.literal key, value) := by
  have hentry : ∀ index : Nat, args[index]? = some (ArgumentKey.positional, value) →
      (args.entries[index]? = some (EffectiveKey.literal key, value) ↔
        key = .ofPosition (args.position index)) := by
    intro index hindex
    rw [getElem?_entries, hindex]
    simp [effectiveKey, eq_comm]
  cases hexplicit : args.explicit? key with
  | some other =>
    rw [get?.eq_def, hexplicit, Option.some_or]
    simp
  | none =>
    rw [get?_eq_some_iff_of_explicit?_eq_none hcount hexplicit]
    simp only [getElem?_positionals_eq_some_iff, reduceCtorEq, true_and, false_or]
    constructor
    · rintro ⟨n, hkey, index, hindex, rfl⟩
      exact ⟨index, hindex, (hentry index hindex).2 hkey⟩
    · rintro ⟨index, hindex, hkey⟩
      exact ⟨args.position index, (hentry index hindex).1 hkey, index, hindex, rfl⟩

/-- No two arguments without a key are counted to the same one. -/
theorem eq_of_getElem?_entries_eq (hcount : args.positionals.length ≤ 2 ^ 63)
    {first second : Nat} {v w : ArgumentValue}
    (hfirst : args[first]? = some (ArgumentKey.positional, v))
    (hsecond : args[second]? = some (ArgumentKey.positional, w))
    (hkeys : args.entries[first]?.map Prod.fst = args.entries[second]?.map Prod.fst) :
    first = second := by
  have hltFirst := position_lt hfirst
  have hltSecond := position_lt hsecond
  rw [getElem?_entries, getElem?_entries, hfirst, hsecond] at hkeys
  simp only [Option.map_some, effectiveKey, Option.some.injEq, EffectiveKey.literal.injEq,
    Key.ofPosition, Key.int.injEq] at hkeys
  have hpositions : args.position first = args.position second := by
    have hints := congrArg Int64.toInt hkeys
    rw [Int64.toInt_ofNat_of_lt (by omega), Int64.toInt_ofNat_of_lt (by omega)] at hints
    omega
  obtain hlt | heq | hlt := Nat.lt_trichotomy first second
  · have := position_lt_position hfirst hlt
    omega
  · exact heq
  · have := position_lt_position hsecond hlt
    omega

theorem get?_eq_none_of_neg {n : Int64} (hn : n < 0)
    (hnone : args.explicit? (.int n) = none) : args.get? (.int n) = none := by
  simp [get?.eq_def, hnone, hn]

/-! ### Three readers -/

/-- What becomes of one child, a list in it kept as it is. -/
def expandArgument (scope : Scope) (key : EffectiveKey) (value : ArgumentValue) :
    Except Failure (Key × ArgumentValue) := do
  let key ← expandKey scope key
  let value ← expandChild scope value
  .ok (key, value)

theorem expandChildren_eq (args : Arguments) (scope : Scope) :
    args.expandChildren scope =
      ((args.entries.map fun entry => expandArgument scope entry.1 entry.2).mapM id).map
        Entries.ofPairs := by
  rw [List.mapM_map]
  rfl

/-- Counting keeps the arguments of a list in their places and with their values, and it keeps the
keys that are there; an argument without a key gets the number of those in front of it. No key is
missing then, so who shows the list, as a document or as data, or expands it gets to its end. A key
finds the first argument that has it written out. Without one it finds the argument, at most one,
that was counted to it, and a negative number finds nothing.

A list beyond the bound has no room in memory. -/
theorem numbering_agrees (args : Arguments) (hcount : args.positionals.length ≤ 2 ^ 63) :
    args.entries.length = args.length ∧
    (∀ (index : Nat) k v, args[index]? = some (k, v) →
      ∃ effective, args.entries[index]? = some (effective, v) ∧
        Counted (args.position index) k effective) ∧
    (∀ arg ∈ args.numbered, arg.1 ≠ .positional) ∧
    readAll? Prod.mk args.numbered = some args.entries ∧
    (∃ members, readAll? (fun key value => (key.text, value.toJson)) args.numbered =
        some members ∧
      args.toJson = .object (Entries.ofPairs members)) ∧
    (∃ pairs, readAll? (fun key value => (key.toKey, value.unexpanded)) args.numbered =
        some pairs ∧
      (ArgumentValue.nested args).unexpanded = .map (Entries.ofPairs pairs)) ∧
    (∀ scope, ∃ children, readAll? (expandArgument scope) args.numbered = some children ∧
      args.expandChildren scope = (children.mapM id).map Entries.ofPairs) ∧
    ∀ key,
      (∀ value, args.get? key = some value ↔
        (∃ before after, args = before ++ (ArgumentKey.literal key, value) :: after ∧
          ArgumentKey.literal key ∉ before.map Prod.fst) ∨
        ArgumentKey.literal key ∉ args.map Prod.fst ∧
          ∃ index : Nat, args[index]? = some (ArgumentKey.positional, value) ∧
            args.entries[index]? = some (EffectiveKey.literal key, value)) ∧
      (∀ (first second : Nat) v w, args[first]? = some (ArgumentKey.positional, v) →
        args[second]? = some (ArgumentKey.positional, w) →
        args.entries[first]?.map Prod.fst = some (.literal key) →
        args.entries[second]?.map Prod.fst = some (.literal key) → first = second) ∧
      ∀ n : Int64, key = .int n → n < 0 → ArgumentKey.literal key ∉ args.map Prod.fst →
        args.get? key = none := by
  refine ⟨?_, fun index k v harg => ?_, fun arg => numbered_ne_positional arg, ?_, ?_, ?_,
    fun scope => ?_, fun key => ⟨fun value => ?_, fun first second v w hfirst hsecond hv hw => ?_,
      fun n hkey hn hnone => ?_⟩⟩
  · rw [entries_eq_mapIdx, List.length_mapIdx]
  · rw [getElem?_entries, harg]
    refine ⟨_, rfl, counted_effectiveKey fun hmissing => ?_⟩
    rw [hmissing] at harg
    exact Nat.lt_of_lt_of_le (position_lt harg) hcount
  · rw [readAll?_numbered, List.map_id']
  · exact ⟨_, readAll?_numbered _ args, by rw [toJson, toJsonFrom_eq_map]; rfl⟩
  · exact ⟨_, readAll?_numbered _ args, ArgumentValue.unexpanded_nested args⟩
  · exact ⟨_, readAll?_numbered _ args, expandChildren_eq args scope⟩
  · rw [get?_eq_some_iff hcount, explicit?_eq_some_iff, explicit?_eq_none_iff]
  · exact eq_of_getElem?_entries_eq hcount hfirst hsecond (hv.trans hw.symm)
  · subst hkey
    exact get?_eq_none_of_neg hn (explicit?_eq_none_iff.2 hnone)

theorem numbering_agrees_mixed :
    let args : Arguments := [(.literal (.int 1), .literal (.string "written")),
      (.positional, .literal (.string "first")), (.extraction ⟨.path "k"⟩, .literal .null),
      (.positional, .nested [(.positional, .literal (.bool true))])]
    args.positionals.length ≤ 2 ^ 63 ∧
      args.numbered.map Prod.fst = [.literal (.int 1), .literal (.int 0), .extraction ⟨.path "k"⟩,
        .literal (.int 1)] ∧
      args.entries[3]?.map Prod.fst = some (.literal (.int 1)) ∧
      args.get? (.int 0) = some (.literal (.string "first")) ∧
      args.get? (.int 1) = some (.literal (.string "written")) ∧ args.get? (.int (-1)) = none := by
  intro args
  have hcount : args.positionals.length ≤ 2 ^ 63 := by decide
  obtain ⟨-, -, -, -, -, -, -, hget⟩ := numbering_agrees args hcount
  have hfirst : args.get? (.int 0) = some (.literal (.string "first")) :=
    ((hget (.int 0)).1 _).2 (.inr ⟨by decide, 1, rfl, rfl⟩)
  have hwritten : args.get? (.int 1) = some (.literal (.string "written")) :=
    ((hget (.int 1)).1 _).2 (.inl ⟨[], _, rfl, List.not_mem_nil⟩)
  have hnone : args.get? (.int (-1)) = none :=
    (hget (.int (-1))).2.2 (-1) rfl (by decide) (by decide)
  exact ⟨hcount, rfl, rfl, hfirst, hwritten, hnone⟩

end Arguments

end Gleaner
