import Gleaner.Entries
import Mathlib.Data.List.Induction

/-!
# What pairs denote

Of pairs with one key the last is the one that counts, wherever the first of them put the entry: the
entries of a list of pairs are looked up from its end. Pairs whose keys are distinct are entries as
they stand, since none of them takes the place of another.
-/

namespace Gleaner.Entries

variable {α β : Type} [DecidableEq α] {key : α} {value : β} {entries pairs : List (α × β)}

theorem contains_iff : contains key entries = true ↔ key ∈ entries.map Prod.fst := by
  rw [contains]
  induction entries with
  | nil => simp
  | cons pair rest ih =>
    obtain ⟨k, v⟩ := pair
    by_cases hk : k = key
    · simp [get?, hk]
    · simp [get?, hk, Ne.symm hk, ih]

theorem get?_eq_lookup : get? key entries = entries.lookup key := by
  induction entries with
  | nil => rfl
  | cons pair rest ih =>
    obtain ⟨k, v⟩ := pair
    by_cases hk : k = key
    · rw [get?, if_pos hk, hk, List.lookup_cons_self]
    · rw [get?, if_neg hk, ih, List.lookup_cons, beq_false_of_ne (Ne.symm hk)]

theorem get?_eq_none_iff : get? key entries = none ↔ key ∉ entries.map Prod.fst := by
  rw [← contains_iff, contains, Bool.not_eq_true, Option.isSome_eq_false_iff,
    Option.isNone_iff_eq_none]

theorem get?_append (first second : List (α × β)) :
    get? key (first ++ second) = (get? key first).or (get? key second) := by
  induction first with
  | nil => rfl
  | cons pair rest ih =>
    obtain ⟨k, v⟩ := pair
    by_cases hk : k = key <;> simp [get?, hk, ih]

theorem get?_eq_some_iff : get? key entries = some value ↔
    ∃ before after, entries = before ++ (key, value) :: after ∧ key ∉ before.map Prod.fst := by
  constructor
  · intro h
    induction entries with
    | nil => cases h
    | cons pair rest ih =>
      obtain ⟨k, v⟩ := pair
      by_cases hk : k = key
      · rw [get?, if_pos hk] at h
        obtain rfl := Option.some.inj h
        exact ⟨[], rest, by rw [hk]; rfl, List.not_mem_nil⟩
      · rw [get?, if_neg hk] at h
        obtain ⟨before, after, rfl, hbefore⟩ := ih h
        exact ⟨(k, v) :: before, after, rfl, by simp [Ne.symm hk, hbefore]⟩
  · rintro ⟨before, after, rfl, hbefore⟩
    rw [get?_append, get?_eq_none_iff.2 hbefore, Option.none_or, get?, if_pos rfl]

theorem mem_of_get?_eq_some (h : get? key entries = some value) : (key, value) ∈ entries := by
  obtain ⟨before, after, rfl, -⟩ := get?_eq_some_iff.1 h
  exact List.mem_append_right _ List.mem_cons_self

theorem insert_of_not_mem (h : key ∉ entries.map Prod.fst) :
    insert key value entries = entries ++ [(key, value)] := by
  induction entries with
  | nil => rfl
  | cons pair rest ih =>
    obtain ⟨k, v⟩ := pair
    rw [List.map_cons, List.mem_cons, not_or] at h
    rw [insert, if_neg (Ne.symm h.1), ih h.2]
    rfl

theorem insertAll_of_nodup (h : ((entries ++ pairs).map Prod.fst).Nodup) :
    insertAll entries pairs = entries ++ pairs := by
  induction pairs generalizing entries with
  | nil => rw [insertAll, List.foldl_nil, List.append_nil]
  | cons pair rest ih =>
    obtain ⟨k, v⟩ := pair
    have hsplit : entries ++ (k, v) :: rest = (entries ++ [(k, v)]) ++ rest := by simp
    have hnew : k ∉ entries.map Prod.fst := by
      rw [List.map_append, List.map_cons] at h
      exact fun hmem => (List.nodup_append.1 h).2.2 k hmem k List.mem_cons_self rfl
    have hinsert : insertAll entries ((k, v) :: rest) = insertAll (entries ++ [(k, v)]) rest := by
      rw [insertAll, List.foldl_cons, insert_of_not_mem hnew]
      rfl
    rw [hinsert, hsplit, ih (hsplit ▸ h)]

theorem ofPairs_of_nodup (h : (pairs.map Prod.fst).Nodup) : ofPairs pairs = pairs :=
  insertAll_of_nodup h

/-! ### Looking up what was written -/

theorem get?_map {γ : Type} (f : β → γ) :
    get? key (entries.map fun (k, v) => (k, f v)) = (get? key entries).map f := by
  induction entries with
  | nil => rfl
  | cons pair rest ih =>
    obtain ⟨k, v⟩ := pair
    by_cases hk : k = key <;> simp [get?, hk, ih]

theorem get?_insertAll :
    get? key (insertAll entries pairs) = (get? key pairs.reverse).or (get? key entries) := by
  induction pairs generalizing entries with
  | nil => rfl
  | cons pair rest ih =>
    obtain ⟨k, v⟩ := pair
    have hstep : insertAll entries ((k, v) :: rest) = insertAll (insert k v entries) rest := rfl
    rw [hstep, ih, get?_insert, List.reverse_cons, get?_append, Option.or_assoc]
    by_cases hk : k = key <;> simp [get?, hk]

/-- The last write wins. -/
theorem get?_ofPairs : get? key (ofPairs pairs) = get? key pairs.reverse := by
  rw [ofPairs, get?_insertAll, get?_nil, Option.or_none]

theorem get?_of_mem_of_count_le_one (h : (pairs.map Prod.fst).count key ≤ 1)
    (hmem : (key, value) ∈ pairs) : get? key pairs = some value := by
  induction pairs with
  | nil => cases hmem
  | cons pair rest ih =>
    obtain ⟨k, v⟩ := pair
    rw [List.map_cons] at h
    obtain heq | hmem := List.mem_cons.1 hmem
    · obtain ⟨rfl, rfl⟩ := Prod.mk.inj heq
      exact if_pos rfl
    · have hk : k ≠ key := by
        rintro rfl
        have hrest : 0 < (rest.map Prod.fst).count k :=
          List.count_pos_iff.2 (List.mem_map.2 ⟨(k, value), hmem, rfl⟩)
        rw [List.count_cons_self] at h
        omega
      rw [List.count_cons_of_ne hk] at h
      rw [get?, if_neg hk, ih h hmem]

theorem get?_reverse_of_count_le_one (h : (pairs.map Prod.fst).count key ≤ 1) :
    get? key pairs.reverse = get? key pairs := by
  cases hvalue : get? key pairs with
  | some value =>
    refine get?_of_mem_of_count_le_one ?_ (List.mem_reverse.2 (mem_of_get?_eq_some hvalue))
    rw [List.map_reverse, List.count_reverse]
    exact h
  | none =>
    have hnone : key ∉ pairs.map Prod.fst := by
      rw [← contains_iff, contains, hvalue]
      exact Bool.false_ne_true
    have hreverse : ¬ (get? key pairs.reverse).isSome = true := by
      rw [← contains, contains_iff, List.map_reverse, List.mem_reverse]
      exact hnone
    rwa [Option.not_isSome_iff_eq_none] at hreverse

/-! ### The entries that pairs denote

No more is known of them than where their keys stand and what the keys hold, and no more is needed:
both together leave no choice.
-/

/-- Entries in which every key of the pairs stands once: where it stands first, and with the value
with which it stands last. -/
structure Denotes (pairs entries : List (α × β)) : Prop where
  keys : entries.map Prod.fst = (pairs.map Prod.fst).eraseDups
  values : ∀ entry ∈ entries, get? entry.1 pairs.reverse = some entry.2

theorem ofPairs_append_singleton (pairs : List (α × β)) (key : α) (value : β) :
    ofPairs (pairs ++ [(key, value)]) = insert key value (ofPairs pairs) := by
  simp only [ofPairs, insertAll, List.foldl_append, List.foldl_cons, List.foldl_nil]

theorem keys_ofPairs (pairs : List (α × β)) :
    (ofPairs pairs).map Prod.fst = (pairs.map Prod.fst).eraseDups := by
  induction pairs using List.reverseRecOn with
  | nil => rfl
  | append_singleton before pair ih =>
    obtain ⟨key, value⟩ := pair
    rw [ofPairs_append_singleton, keys_insert, ih, List.map_append, List.eraseDups_append]
    by_cases hmem : key ∈ before.map Prod.fst
    · rw [if_pos (List.mem_eraseDups.2 hmem)]
      simp [List.cons_removeAll, hmem]
    · rw [if_neg (fun h => hmem (List.mem_eraseDups.1 h))]
      simp [List.cons_removeAll, hmem, List.eraseDups_cons]

theorem nodup_keys_ofPairs (pairs : List (α × β)) : ((ofPairs pairs).map Prod.fst).Nodup := by
  induction pairs using List.reverseRecOn with
  | nil => exact List.nodup_nil
  | append_singleton before pair ih =>
    obtain ⟨key, value⟩ := pair
    rw [ofPairs_append_singleton, keys_insert]
    split
    · exact ih
    · rename_i hnew
      exact List.nodup_append.2 ⟨ih, List.pairwise_singleton _ key, fun k hk l hl => by
        rw [List.mem_singleton.1 hl]
        exact ne_of_mem_of_not_mem hk hnew⟩

/-! Keys and values may be rewritten before or after the entries are formed, if no two keys become
one. -/

section Map

variable {α' β' : Type} [DecidableEq α']

theorem map_insert (f : α → α') (g : β → β') (value : β)
    (hf : ∀ k ∈ entries.map Prod.fst, f k = f key → k = key) :
    (insert key value entries).map (Prod.map f g) =
      insert (f key) (g value) (entries.map (Prod.map f g)) := by
  induction entries with
  | nil => rfl
  | cons pair rest ih =>
    obtain ⟨k, v⟩ := pair
    obtain ⟨hk, hrest⟩ := List.forall_mem_cons.1 hf
    by_cases heq : k = key
    · simp [insert, heq]
    · have hne : ¬ f k = f key := fun h => heq (hk h)
      simp [insert, heq, hne, ih hrest]

theorem map_ofPairs_of_inj (f : α → α') (g : β → β')
    (hf : ∀ k ∈ pairs.map Prod.fst, ∀ l ∈ pairs.map Prod.fst, f k = f l → k = l) :
    (ofPairs pairs).map (Prod.map f g) = ofPairs (pairs.map (Prod.map f g)) := by
  induction pairs using List.reverseRecOn with
  | nil => rfl
  | append_singleton before pair ih =>
    obtain ⟨key, value⟩ := pair
    rw [List.map_append] at hf
    have hbefore := ih fun k hk l hl =>
      hf k (List.mem_append_left _ hk) l (List.mem_append_left _ hl)
    have hkey : ∀ k ∈ (ofPairs before).map Prod.fst, f k = f key → k = key := by
      intro k hk
      rw [keys_ofPairs, List.mem_eraseDups] at hk
      exact hf k (List.mem_append_left _ hk) key (List.mem_append_right _ List.mem_cons_self)
    rw [ofPairs_append_singleton, map_insert f g value hkey, hbefore, List.map_append,
      List.map_singleton, Prod.map_apply, ofPairs_append_singleton]

theorem ofPairs_map_ofPairs (f : α → α') (g : β → β') (pairs : List (α × β))
    (hf : ∀ k ∈ pairs.map Prod.fst, ∀ l ∈ pairs.map Prod.fst, f k = f l → k = l) :
    ofPairs ((ofPairs pairs).map (Prod.map f g)) = ofPairs (pairs.map (Prod.map f g)) := by
  rw [map_ofPairs_of_inj f g hf, ofPairs_of_nodup (nodup_keys_ofPairs _)]

theorem map_ofPairs (g : β → β') (pairs : List (α × β)) :
    (ofPairs pairs).map (fun (k, v) => (k, g v)) = ofPairs (pairs.map fun (k, v) => (k, g v)) :=
  map_ofPairs_of_inj id g fun _ _ _ _ h => h

end Map

theorem denotes_ofPairs (pairs : List (α × β)) : Denotes pairs (ofPairs pairs) := by
  refine ⟨keys_ofPairs pairs, ?_⟩
  rintro ⟨key, value⟩ hentry
  have honce : ((ofPairs pairs).map Prod.fst).count key ≤ 1 :=
    List.nodup_iff_count.1 (nodup_keys_ofPairs pairs) key
  rw [← get?_ofPairs]
  exact get?_of_mem_of_count_le_one honce hentry

theorem mem_of_mem_ofPairs {entry : α × β} (h : entry ∈ ofPairs pairs) : entry ∈ pairs :=
  List.mem_reverse.1 (mem_of_get?_eq_some ((denotes_ofPairs pairs).values entry h))

end Gleaner.Entries
