import Gleaner.Proofs.Argument.OneLevel
import Gleaner.Proofs.Subject.Retraction

/-!
# The two renderings of a list

A list in which nothing is resolved is shown as data, with texts and integers for keys, or as a
document, with texts for names. In both a repeated key stands where it stood first and holds what it
held last. But the data goes by the key and the document by its text, so the two may differ where
two keys have one text.

Of keys that are written as texts, extractions among them, the text is all there is in the data too,
and integers have numerals of their own. What is left is an integer beside a text that is its
numeral. Lists in which these are apart, on every level, are shown alike: turning keys into texts
makes no two of them one, so it may be done before the entries are formed or after.
-/

namespace Gleaner

theorem Key.int_segment_inj {m n : Int64} (h : (Key.int m).segment = (Key.int n).segment) :
    m = n := by
  have hread : Numeral.readWord? (Numeral.ofInt m.toInt) =
      Numeral.readWord? (Numeral.ofInt n.toInt) := congrArg Numeral.readWord? h
  rw [Numeral.readWord?_ofInt, Numeral.readWord?_ofInt] at hread
  exact Option.some.inj hread

theorem Accessor.toJson_ofJson_toJson (a : Accessor) :
    (Subject.ofJson a.toJson).toJson = a.toJson := by
  induction a with
  | path text => rfl
  | computed inner ih =>
    have hname : ([(extractMarker, inner.toJson)].map Prod.fst).Nodup := List.nodup_singleton _
    rw [toJson, Subject.toJson_ofJson_object hname, List.map_singleton, ih]

theorem Extraction.toJson_ofJson_marker (e : Extraction) :
    (Subject.ofJson e.marker).toJson = e.marker :=
  Accessor.toJson_ofJson_toJson (.computed e.accessor)

namespace Arguments

/-! ### Keys and their texts -/

/-- No integer among the effective keys has the text of a text or of an extraction among them. -/
def IntegersApart (args : Arguments) : Prop :=
  ∀ n, .literal (.int n) ∈ args.entries.map Prod.fst →
    (∀ s, .literal (.text s) ∈ args.entries.map Prod.fst → s ≠ (Key.int n).segment) ∧
    ∀ e, .extraction e ∈ args.entries.map Prod.fst → e.display ≠ (Key.int n).segment

namespace EffectiveKey

theorem segment_toKey (key : EffectiveKey) : key.toKey.segment = key.text := by
  cases key <;> rfl

theorem toKey_eq_int_iff {key : EffectiveKey} {n : Int64} :
    key.toKey = .int n ↔ key = .literal (.int n) := by
  cases key <;> simp [toKey]

end EffectiveKey

theorem IntegersApart.text_ne {args : Arguments} (h : args.IntegersApart) {n : Int64}
    {key : EffectiveKey} (hn : .literal (.int n) ∈ args.entries.map Prod.fst)
    (hkey : key ∈ args.entries.map Prod.fst) {s : String} (hs : key.toKey = .text s) :
    s ≠ (Key.int n).segment := by
  cases key with
  | literal k =>
    rw [EffectiveKey.toKey] at hs
    subst hs
    exact (h n hn).1 s hkey
  | extraction e =>
    rw [EffectiveKey.toKey, Key.text.injEq] at hs
    subst hs
    exact (h n hn).2 e hkey

/-- Where integers are apart, what has one text is one key. -/
theorem IntegersApart.toKey_eq {args : Arguments} (h : args.IntegersApart) {k l : EffectiveKey}
    (hk : k ∈ args.entries.map Prod.fst) (hl : l ∈ args.entries.map Prod.fst)
    (hsegment : k.toKey.segment = l.toKey.segment) : k.toKey = l.toKey := by
  cases hkk : k.toKey with
  | int m =>
    cases hll : l.toKey with
    | int n =>
      rw [hkk, hll] at hsegment
      rw [Key.int_segment_inj hsegment]
    | text t =>
      rw [hkk, hll] at hsegment
      rw [EffectiveKey.toKey_eq_int_iff.1 hkk] at hk
      exact absurd hsegment.symm (h.text_ne hk hl hll)
  | text s =>
    cases hll : l.toKey with
    | int n =>
      rw [hkk, hll] at hsegment
      rw [EffectiveKey.toKey_eq_int_iff.1 hll] at hl
      exact absurd hsegment (h.text_ne hl hk hkk)
    | text t =>
      rw [hkk, hll] at hsegment
      exact congrArg Key.text hsegment

theorem toJsonFrom_eq_map (position : Nat) (args : Arguments) :
    toJsonFrom position args =
      (entriesFrom position args).map fun entry => (entry.1.text, entry.2.toJson) := by
  induction args generalizing position with
  | nil => rw [toJsonFrom]; rfl
  | cons arg rest ih => rw [toJsonFrom, ih, entriesFrom, List.map_cons]

end Arguments

/-! ### Lists and the lists in them -/

namespace ArgumentValue

open Arguments (EffectiveKey)

/-- Integers are apart in every list of a value. -/
inductive IntegersApart : ArgumentValue → Prop
  | literal (value : Subject) : IntegersApart (.literal value)
  | extraction (e : Extraction) : IntegersApart (.extraction e)
  | nested {items : Arguments} (hkeys : items.IntegersApart)
      (hitems : ∀ arg ∈ items, IntegersApart arg.2) : IntegersApart (.nested items)

theorem toJson_nested (items : Arguments) : (nested items).toJson = items.toJson := by
  rw [toJson, Arguments.toJson]

/-- One level: the entries of the data may be written after they are formed or before. -/
theorem toJson_unexpanded_nested {items : Arguments} (hkeys : items.IntegersApart)
    (hvalues : ∀ arg ∈ items, arg.2.unexpanded.toJson = arg.2.toJson) :
    (nested items).unexpanded.toJson = (nested items).toJson := by
  have hsegments : ∀ k ∈ items.entries.map (EffectiveKey.toKey ∘ Prod.fst),
      ∀ l ∈ items.entries.map (EffectiveKey.toKey ∘ Prod.fst), k.segment = l.segment → k = l := by
    intro k hk l hl
    obtain ⟨first, hfirst, rfl⟩ := List.mem_map.1 hk
    obtain ⟨second, hsecond, rfl⟩ := List.mem_map.1 hl
    exact hkeys.toKey_eq (List.mem_map_of_mem hfirst) (List.mem_map_of_mem hsecond)
  have hwritten : items.entries.map (fun entry =>
      (entry.1.toKey.segment, entry.2.unexpanded.toJson)) =
        items.entries.map fun entry => (entry.1.text, entry.2.toJson) := by
    apply List.map_congr_left
    intro entry hentry
    obtain ⟨arg, harg, hvalue⟩ := Arguments.exists_of_mem_entries hentry
    rw [entry.1.segment_toKey, ← hvalue, hvalues arg harg]
  have hentries := Entries.ofPairs_map_ofPairs Key.segment Subject.toJson
    (items.entries.map fun entry => (entry.1.toKey, entry.2.unexpanded)) (by rwa [List.map_map])
  rw [List.map_map] at hentries
  rw [unexpanded_nested, Subject.toJson, Subject.toJsonEntries_eq_map, toJson,
    Arguments.toJsonFrom_eq_map]
  exact congrArg Json.object (hentries.trans (congrArg Entries.ofPairs hwritten))

theorem IntegersApart.toJson_unexpanded {value : ArgumentValue} (h : value.IntegersApart) :
    value.unexpanded.toJson = value.toJson := by
  induction h with
  | literal value => rw [unexpanded, toJson]
  | extraction e =>
    rw [unexpanded, toJson]
    exact e.toJson_ofJson_marker
  | nested hkeys _ ih => exact toJson_unexpanded_nested hkeys ih

end ArgumentValue

/-- The document of a list shown as data is the one that reports show. -/
theorem Arguments.renderings_agree (args : Arguments)
    (h : (ArgumentValue.nested args).IntegersApart) :
    (ArgumentValue.nested args).unexpanded.toJson = args.toJson := by
  rw [h.toJson_unexpanded, ArgumentValue.toJson_nested]

theorem Arguments.renderings_agree_repeated :
    let inner : Arguments := [(.extraction ⟨.path "q"⟩, .extraction ⟨.computed (.path "r")⟩),
      (.literal (.text "a"), .literal (.int 1)), (.literal (.text "a"), .literal (.int 2))]
    let args : Arguments := [(.positional, .literal .null), (.literal (.text "a"), .nested inner),
      (.literal (.int 0), .literal (.bool true))]
    (ArgumentValue.nested args).IntegersApart ∧
      (ArgumentValue.nested args).unexpanded.toJson = args.toJson ∧
      args.toJson = .object [("0", .bool true), ("a", .object [
        ("\x7bq\x7d", .object [("$extract", .object [("$extract", .string "r")])]),
        ("a", .int 2)])] := by
  intro inner args
  have hzero : (Key.int 0).segment = "0" := Numeral.ofNat_of_lt (by decide)
  have hinner : inner.IntegersApart := by
    intro n hn
    simp [inner, entries, entriesFrom, effectiveKey] at hn
  have hargs : args.IntegersApart := by
    intro n hn
    have hn : n = 0 := by simpa [args, entries, entriesFrom, effectiveKey, positionAfter,
      Key.ofPosition] using hn
    rw [hn, hzero]
    simp [args, entries, entriesFrom, effectiveKey, Key.ofPosition]
  have hapart : (ArgumentValue.nested args).IntegersApart := by
    refine .nested hargs (List.forall_mem_cons.2 ⟨.literal _, List.forall_mem_cons.2 ⟨?_,
      List.forall_mem_singleton.2 (.literal _)⟩⟩)
    exact .nested hinner (List.forall_mem_cons.2 ⟨.extraction _, List.forall_mem_cons.2 ⟨
      .literal _, List.forall_mem_singleton.2 (.literal _)⟩⟩)
  have hrendered : args.toJson = .object (Entries.ofPairs
      [("0", .null), ("a", inner.toJson), ("0", .bool true)]) := by
    rw [← hzero]
    rfl
  refine ⟨hapart, renderings_agree args hapart, ?_⟩
  rw [hrendered]
  rfl

end Gleaner
