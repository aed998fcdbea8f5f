import Gleaner.Argument.Expansion
import Gleaner.Proofs.Entries
import Gleaner.Proofs.Traversal
import Mathlib.Algebra.Group.Nat.Defs

/-!
# Which of two arguments under one key counts

An argument list is read in two ways. A lookup takes the first argument with the key, and only
without one the argument at the position that the key names. An expansion writes the arguments one
after another under their effective keys, so that it keeps the last of them. Both know the same
keys, and under a key that one argument alone has they give the same value. Where several arguments
share a key, whichever way, the lookup and the expansion may hold different ones.
-/

namespace Gleaner.Arguments

/-- No key of the list is computed. -/
def KeysWritten (args : Arguments) : Prop :=
  ∀ arg ∈ args, ∀ e, arg.1 ≠ .extraction e

/-- The value of the last argument with an effective key. -/
def last? (key : Key) (args : Arguments) : Option ArgumentValue :=
  Entries.get? (.literal key) args.entries.reverse

variable {args : Arguments} {key : Key} {value : ArgumentValue} {scope : Scope}

/-! ### Effective keys -/

theorem explicit?_eq_get? (key : Key) (args : Arguments) :
    args.explicit? key = Entries.get? (.literal key) args := by
  induction args with
  | nil => rfl
  | cons arg rest ih =>
    obtain ⟨k, v⟩ := arg
    rw [explicit?, Entries.get?, ih]

theorem positionals_cons (v : ArgumentValue) (args : Arguments) :
    positionals ((.positional, v) :: args) = v :: args.positionals := by
  simp [positionals]

theorem positionals_cons_of_ne (k : ArgumentKey) (hk : k ≠ .positional) (v : ArgumentValue)
    (args : Arguments) : positionals ((k, v) :: args) = args.positionals := by
  simp [positionals, hk]

/-- The effective entries under a key: the arguments with that key, and the one at the position that
the key names. -/
theorem mem_entriesFrom_iff {position : Nat} :
    (EffectiveKey.literal key, value) ∈ entriesFrom position args ↔
      (ArgumentKey.literal key, value) ∈ args ∨
        ∃ n, key = .ofPosition (position + n) ∧ args.positionals[n]? = some value := by
  induction args generalizing position with
  | nil => simp [entriesFrom, positionals]
  | cons arg rest ih =>
    obtain ⟨k, v⟩ := arg
    rw [entriesFrom, List.mem_cons, ih, List.mem_cons]
    cases k with
    | positional =>
      rw [positionals_cons]
      constructor
      · rintro (heq | hrest | ⟨n, hkey, hvalue⟩)
        · obtain ⟨hkey, rfl⟩ := Prod.mk.inj heq
          exact .inr ⟨0, EffectiveKey.literal.inj hkey, rfl⟩
        · exact .inl (.inr hrest)
        · exact .inr ⟨n + 1, by rw [hkey, positionAfter, Nat.add_right_comm, Nat.add_assoc], hvalue⟩
      · rintro ((heq | hrest) | ⟨n, hkey, hvalue⟩)
        · cases heq
        · exact .inr (.inl hrest)
        · cases n with
          | zero =>
            obtain rfl := Option.some.inj hvalue
            exact .inl (by rw [hkey]; rfl)
          | succ n =>
            exact .inr (.inr ⟨n, by rw [hkey, positionAfter, Nat.add_right_comm, Nat.add_assoc],
              hvalue⟩)
    | literal k =>
      rw [positionals_cons_of_ne (.literal k) nofun, positionAfter, effectiveKey, ← or_assoc]
      simp only [Prod.mk.injEq, EffectiveKey.literal.injEq, ArgumentKey.literal.injEq]
    | extraction e =>
      rw [positionals_cons_of_ne (.extraction e) nofun, positionAfter, effectiveKey, ← or_assoc]
      simp only [Prod.mk.injEq, reduceCtorEq, false_and, false_or]

theorem mem_entries_iff :
    (EffectiveKey.literal key, value) ∈ args.entries ↔
      (ArgumentKey.literal key, value) ∈ args ∨
        ∃ n, key = .ofPosition n ∧ args.positionals[n]? = some value := by
  rw [entries, mem_entriesFrom_iff]
  simp only [Nat.zero_add]

theorem isSome_last? :
    (args.last? key).isSome = true ↔ EffectiveKey.literal key ∈ args.entries.map Prod.fst := by
  rw [last?, ← Entries.contains, Entries.contains_iff, List.map_reverse, List.mem_reverse]

/-! ### Positions and integer keys

An integer key names the position that it is, as long as positions fit a word. A list that long has
no room in memory.
-/

theorem ofPosition_toNat {n : Int64} (h : ¬ n < 0) : Key.ofPosition n.toInt.toNat = .int n := by
  have hnonneg : 0 ≤ n.toInt := by
    rw [Int64.lt_iff_toInt_lt, Int64.toInt_zero] at h
    omega
  have hbound : n.toInt.toNat < 2 ^ 63 := by
    have := n.toInt_lt
    omega
  rw [Key.ofPosition, Key.int.injEq, ← Int64.toInt_inj, Int64.toInt_ofNat_of_lt hbound,
    Int.toNat_of_nonneg hnonneg]

theorem get?_ofPosition {n : Nat} (h : n < 2 ^ 63)
    (hnone : args.explicit? (.ofPosition n) = none) :
    args.get? (.ofPosition n) = args.positionals[n]? := by
  have hword : (Int64.ofNat n).toInt = n := Int64.toInt_ofNat_of_lt h
  have hnonneg : ¬ Int64.ofNat n < 0 := by
    rw [Int64.lt_iff_toInt_lt, hword, Int64.toInt_zero]
    omega
  rw [get?.eq_def, hnone, Option.none_or, Key.ofPosition]
  simp only [if_neg hnonneg, hword, Int.toNat_natCast]

/-! ### Looking up -/

theorem mem_entries_of_get? (h : args.get? key = some value) :
    (EffectiveKey.literal key, value) ∈ args.entries := by
  rw [mem_entries_iff]
  rw [get?.eq_def, Option.or_eq_some_iff] at h
  obtain hexplicit | ⟨-, hposition⟩ := h
  · rw [explicit?_eq_get?] at hexplicit
    exact .inl (Entries.mem_of_get?_eq_some hexplicit)
  · cases key with
    | text s => cases hposition
    | int n =>
      simp only at hposition
      split at hposition
      · cases hposition
      · rename_i hn
        exact .inr ⟨n.toInt.toNat, (ofPosition_toNat hn).symm, hposition⟩

theorem contains_iff (hcount : args.positionals.length ≤ 2 ^ 63) :
    args.contains key = true ↔ EffectiveKey.literal key ∈ args.entries.map Prod.fst := by
  rw [contains, Option.isSome_iff_exists]
  constructor
  · rintro ⟨v, hv⟩
    exact List.mem_map.2 ⟨_, mem_entries_of_get? hv, rfl⟩
  · intro hkey
    obtain ⟨⟨_, v⟩, hmem, rfl⟩ := List.mem_map.1 hkey
    cases hexplicit : args.explicit? key with
    | some w => exact ⟨w, by rw [get?.eq_def, hexplicit, Option.some_or]⟩
    | none =>
      obtain hwritten | ⟨n, rfl, hn⟩ := mem_entries_iff.1 hmem
      · have hcontains : Entries.contains (.literal key) args = true :=
          Entries.contains_iff.2 (List.mem_map.2 ⟨_, hwritten, rfl⟩)
        rw [Entries.contains, ← explicit?_eq_get?, hexplicit] at hcontains
        cases hcontains
      · have hlt : n < 2 ^ 63 :=
          Nat.lt_of_lt_of_le (List.getElem?_eq_some_iff.1 hn).1 hcount
        exact ⟨v, by rw [get?_ofPosition hlt hexplicit, hn]⟩

/-- Where one argument alone has a key, the first is the last. -/
theorem get?_eq_last? (hcount : args.positionals.length ≤ 2 ^ 63)
    (honce : (args.entries.map Prod.fst).count (.literal key) ≤ 1) :
    args.get? key = args.last? key := by
  rw [last?, Entries.get?_reverse_of_count_le_one honce]
  cases hvalue : args.get? key with
  | some v =>
    exact (Entries.get?_of_mem_of_count_le_one honce (mem_entries_of_get? hvalue)).symm
  | none =>
    have hnone : ¬ Entries.contains (EffectiveKey.literal key) args.entries = true := by
      rw [Entries.contains_iff, ← contains_iff hcount, contains, hvalue]
      exact Bool.false_ne_true
    exact (Option.not_isSome_iff_eq_none.1 hnone).symm

/-! ### Expanding -/

theorem exists_literal_of_mem_entriesFrom {position : Nat} (h : args.KeysWritten)
    {entry : EffectiveKey × ArgumentValue} (hentry : entry ∈ entriesFrom position args) :
    ∃ key, entry.1 = .literal key := by
  induction args generalizing position with
  | nil => cases hentry
  | cons arg rest ih =>
    obtain ⟨k, v⟩ := arg
    obtain rfl | hrest := List.mem_cons.1 hentry
    · cases k with
      | positional => exact ⟨_, rfl⟩
      | literal key => exact ⟨key, rfl⟩
      | extraction e => exact absurd rfl (h _ List.mem_cons_self e)
    · exact ih (fun arg harg => h arg (List.mem_cons_of_mem _ harg)) hrest

/-- What becomes of one effective entry. -/
def Expands (scope : Scope) (entry : EffectiveKey × ArgumentValue) (child : Key × ArgumentValue) :
    Prop :=
  entry.1 = .literal child.1 ∧ expandChild scope entry.2 = .ok child.2

theorem get?_of_forall₂ {entries : List (EffectiveKey × ArgumentValue)}
    {children : List (Key × ArgumentValue)} (h : List.Forall₂ (Expands scope) entries children)
    (key : Key) :
    (Entries.get? (.literal key) entries = none ∧ Entries.get? key children = none) ∨
      ∃ v child, Entries.get? (.literal key) entries = some v ∧
        expandChild scope v = .ok child ∧ Entries.get? key children = some child := by
  induction h with
  | nil => exact .inl ⟨rfl, rfl⟩
  | @cons entry child entries children hhead _ ih =>
    obtain ⟨k, w⟩ := child
    obtain ⟨k', v⟩ := entry
    obtain ⟨rfl, hvalue⟩ := hhead
    by_cases hk : k = key
    · exact .inr ⟨v, w, by simp [Entries.get?, hk], hvalue, by simp [Entries.get?, hk]⟩
    · simpa [Entries.get?, hk] using ih

/-- Under each key an expanded list holds what its last argument with that key expands to. -/
theorem get?_expand (hkeys : args.KeysWritten) {entries : List (Key × Subject)}
    (h : args.expand scope = .ok (.map entries)) (key : Key) :
    (args.last? key = none ∧ Entries.get? key entries = none) ∨
      ∃ v child, args.last? key = some v ∧ expandChild scope v = .ok child ∧
        Entries.get? key entries = some child.unexpanded := by
  obtain ⟨merged, hmerged, hmap⟩ := Traversal.bind_eq_ok_iff.1 h
  obtain ⟨children, hchildren, hpairs⟩ := Traversal.bind_eq_ok_iff.1 hmerged
  obtain rfl := Except.ok.inj hpairs
  obtain rfl := Subject.map.inj (Except.ok.inj hmap)
  have hforall : List.Forall₂ (Expands scope) args.entries children := by
    have hsteps := (List.forall₂_and_left _ _).2
      ⟨fun entry => exists_literal_of_mem_entriesFrom hkeys, Traversal.mapM_eq_ok_iff.1 hchildren⟩
    refine hsteps.imp ?_
    rintro ⟨_, v⟩ child ⟨⟨k, rfl⟩, hstep⟩
    obtain ⟨_, ⟨⟩, hchild⟩ := Traversal.bind_eq_ok_iff.1 hstep
    obtain ⟨w, hvalue, ⟨⟩⟩ := Traversal.bind_eq_ok_iff.1 hchild
    exact ⟨rfl, hvalue⟩
  rw [Entries.get?_map, Entries.get?_ofPairs, last?]
  obtain ⟨hnone, hchild⟩ | ⟨v, child, hv, hvalue, hchild⟩ :=
    get?_of_forall₂ (List.forall₂_reverse_iff.2 hforall) key
  · exact .inl ⟨hnone, by rw [hchild]; rfl⟩
  · exact .inr ⟨v, child, hv, hvalue, by rw [hchild]; rfl⟩

theorem expand_eq_of_expandChild {v child : ArgumentValue} (hv : ∀ items, v ≠ .nested items)
    (h : expandChild scope v = .ok child) : v.expand scope = .ok child.unexpanded := by
  cases v with
  | literal x =>
    obtain rfl := Except.ok.inj h
    rfl
  | extraction e =>
    obtain ⟨x, hx, rfl⟩ := Traversal.map_eq_ok_iff.1 h
    exact hx
  | nested items => exact absurd rfl (hv items)

/-- An expansion has an entry under exactly the keys under which a lookup finds a value, and the
entry is that of the last argument with the key. So the two agree on a value or an extraction where
the lookup takes the last argument too, as it does if no other has the key; else it may hold an
argument that the expansion dropped. -/
theorem expand_takes_last (hkeys : args.KeysWritten) (hcount : args.positionals.length ≤ 2 ^ 63)
    {entries : List (Key × Subject)} (h : args.expand scope = .ok (.map entries)) (key : Key) :
    ((Entries.get? key entries).isSome = true ↔ args.contains key = true) ∧
    (∀ v, args.last? key = some v → ∃ child, expandChild scope v = .ok child ∧
      Entries.get? key entries = some child.unexpanded) ∧
    ((args.entries.map Prod.fst).count (.literal key) ≤ 1 → args.get? key = args.last? key) ∧
    (args.get? key = args.last? key → ∀ v, args.get? key = some v →
      (∀ items, v ≠ .nested items) → ∀ fallback,
        ∃ x, args.getExpanded key fallback scope = .ok x ∧ Entries.get? key entries = some x) := by
  obtain ⟨hlast, hentry⟩ | ⟨last, child, hlast, hchild, hentry⟩ := get?_expand hkeys h key
  · have hcontains : ¬ args.contains key = true := by
      rw [contains_iff hcount, ← isSome_last?, hlast]
      exact Bool.false_ne_true
    refine ⟨?_, fun v hv => ?_, get?_eq_last? hcount, fun _ v hv => ?_⟩
    · rw [hentry]
      exact iff_of_false Bool.false_ne_true hcontains
    · rw [hlast] at hv
      cases hv
    · exact absurd (Option.isSome_of_eq_some hv) hcontains
  · refine ⟨?_, fun v hv => ?_, get?_eq_last? hcount, fun hsame v hv hnested fallback => ?_⟩
    · rw [hentry, contains_iff hcount, ← isSome_last?, hlast]
      exact Iff.rfl
    · rw [hlast] at hv
      obtain rfl := Option.some.inj hv
      exact ⟨child, hchild, hentry⟩
    · rw [hsame, hlast] at hv
      obtain rfl := Option.some.inj hv
      refine ⟨child.unexpanded, ?_, hentry⟩
      rw [getExpanded, getD, hsame, hlast, Option.getD_some]
      exact expand_eq_of_expandChild hnested hchild

theorem expand_takes_last_integer :
    let args : Arguments := [(.positional, .literal (.string "pos")),
      (.literal (.int 0), .extraction ⟨.path "name"⟩)]
    let scope : Scope := ⟨⟨32, .silent⟩, .map [(.text "name", .string "Ann")], .empty⟩
    let entries : List (Key × Subject) := [(.int 0, .string "Ann")]
    args.KeysWritten ∧ args.positionals.length ≤ 2 ^ 63 ∧
      args.expand scope = .ok (.map entries) ∧ args.get? (.int 0) = args.last? (.int 0) ∧
      args.get? (.int 0) = some (.extraction ⟨.path "name"⟩) ∧ ∀ fallback,
        ∃ x, args.getExpanded (.int 0) fallback scope = .ok x ∧
          Entries.get? (.int 0) entries = some x := by
  intro args scope entries
  have hkeys : args.KeysWritten := by simp [args, KeysWritten]
  have hcount : args.positionals.length ≤ 2 ^ 63 := by decide
  have hexpand : args.expand scope = .ok (.map entries) := by rfl
  obtain ⟨-, -, -, hagree⟩ := expand_takes_last hkeys hcount hexpand (.int 0)
  exact ⟨hkeys, hcount, hexpand, rfl, rfl, hagree rfl _ rfl nofun⟩

/-- An integer key in front of the argument at its position wins in a lookup and loses in an
expansion. -/
theorem integer_key_overwritten :
    let args : Arguments := [(.literal (.int 0), .literal (.string "explicit")),
      (.positional, .literal (.string "pos"))]
    let scope : Scope := ⟨⟨32, .silent⟩, .null, .empty⟩
    args.KeysWritten ∧ args.expand scope = .ok (.map [(.int 0, .string "pos")]) ∧
      args.getExpanded (.int 0) (.literal .null) scope = .ok (.string "explicit") := by
  intro args scope
  exact ⟨by simp [args, KeysWritten], rfl, rfl⟩

end Gleaner.Arguments
