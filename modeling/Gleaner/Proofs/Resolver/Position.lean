import Gleaner.Proofs.Number.Numeral
import Gleaner.Proofs.Resolver.Isolation
import Gleaner.Proofs.Subject.Plain
import Gleaner.Proofs.Traversal

/-!
# Positions in a subject

A position is a list of steps into collections, each an index or a key. Joined by dots, the texts of
the steps are a path to it, as long as no key has a text that a path takes for something else: text
keys must be plain names, and an integer key must not share its numeral with a text key of its map.
In the other direction, where there are no objects of the host to answer with values of their own, a
path without scopes yields only what stands at some position. Calls fail there, but for those on
empty collections, which yield the collection.
-/

namespace Gleaner

/-! ### Names -/

namespace Path

/-- The texts that a path can hold as one segment and that are looked up as they stand. -/
structure IsName (text : String) : Prop where
  not_blank : ¬ Text.isBlank text = true
  no_dot : '.' ∉ text.toList
  no_scope : ¬ [':', ':'] <:+: text.toList
  no_call : ¬ ['(', ')'] <:+ text.toList

theorem IsName.classify {text : String} (h : IsName text) :
    Segment.classify text = .lookup text :=
  Segment.classify_eq_lookup_iff.2 ⟨h.no_scope, h.no_call⟩

theorem isName_ofInt (i : Int) : IsName (Numeral.ofInt i) := by
  have hother {c : Char} (hc : c ∈ (Numeral.ofInt i).toList) :
      c ≠ '.' ∧ c ≠ ':' ∧ c ≠ ')' ∧ Text.isSpace c = false := by
    have hdigits : ∀ d < 10, Numeral.digitChar d ≠ '.' ∧ Numeral.digitChar d ≠ ':' ∧
        Numeral.digitChar d ≠ ')' ∧ Text.isSpace (Numeral.digitChar d) = false := by decide
    obtain rfl | ⟨d, hd, rfl⟩ := Numeral.eq_minus_or_digit_of_mem_ofInt hc
    · decide
    · exact hdigits d hd
  refine ⟨fun hblank => ?_, fun hdot => (hother hdot).1 rfl,
    fun hscope => (hother (hscope.subset List.mem_cons_self)).2.1 rfl,
    fun hcall => (hother (hcall.subset (List.mem_cons_of_mem _ List.mem_cons_self))).2.2.1 rfl⟩
  cases hchars : (Numeral.ofInt i).toList with
  | nil =>
    have hread := Numeral.readInt?_ofInt i
    rw [hchars] at hread
    cases hread
  | cons c rest =>
    have hc : c ∈ (Numeral.ofInt i).toList := hchars ▸ List.mem_cons_self
    have hspace : Text.isSpace c = true := List.all_eq_true.1 hblank c hc
    rw [(hother hc).2.2.2] at hspace
    cases hspace

end Path

/-! ### Steps -/

/-- A step from a collection to one of its parts. -/
inductive Step where
  | index (i : Nat)
  | key (k : Key)

namespace Step

def text : Step → String
  | index i => Numeral.ofNat i
  | key k => k.segment

def path (steps : List Step) : String :=
  String.intercalate "." (steps.map text)

end Step

namespace Subject

def part? : Subject → Step → Option Subject
  | sequence items, .index i => items[i]?
  | map entries, .key k => Entries.get? k entries
  | _, _ => none

/-- What is at a position. -/
def descend? (s : Subject) : List Step → Option Subject
  | [] => some s
  | step :: rest => (s.part? step).bind fun part => part.descend? rest

/-- Whether the text of a step from a subject leads where the step does. -/
def Names (s : Subject) : Step → Prop
  | .index i => i < UInt64.size
  | .key (.text name) => Path.IsName name
  | .key (.int n) =>
    ∀ entries, s = map entries → Entries.get? (.text (Key.int n).segment) entries = none

/-- Whether the texts of all steps lead where the steps do. -/
def NamesAll (s : Subject) : List Step → Prop
  | [] => True
  | step :: rest => s.Names step ∧ ∀ part, s.part? step = some part → part.NamesAll rest

/-- No position holds an object of the host. -/
def HostFree (s : Subject) : Prop :=
  ∀ steps o, s.descend? steps ≠ some (object o)

theorem descend?_cons_of_part? {s part : Subject} {step : Step} (h : s.part? step = some part)
    (rest : List Step) : s.descend? (step :: rest) = part.descend? rest := by
  rw [descend?, h, Option.bind_some]

theorem descend?_append (s : Subject) (steps more : List Step) :
    s.descend? (steps ++ more) = (s.descend? steps).bind fun part => part.descend? more := by
  induction steps generalizing s with
  | nil => rfl
  | cons step rest ih =>
    rw [List.cons_append, descend?, descend?, Option.bind_assoc]
    exact congrArg _ (funext ih)

theorem HostFree.of_descend? {s part : Subject} {steps : List Step} (hs : s.HostFree)
    (h : s.descend? steps = some part) : part.HostFree := by
  intro more o hobject
  refine hs (steps ++ more) o ?_
  rw [descend?_append, h, Option.bind_some, hobject]

theorem HostFree.ne_object {s : Subject} (hs : s.HostFree) (o : HostObject) : s ≠ object o :=
  fun h => hs [] o (congrArg some h)

theorem IsPlain.of_part? {s part : Subject} {step : Step} (hs : s.IsPlain)
    (h : s.part? step = some part) : part.IsPlain := by
  cases hs with
  | sequence hitems =>
    cases step with
    | index i => exact hitems part (List.mem_of_getElem? h)
    | key k => cases h
  | map hnames hmembers =>
    cases step with
    | index i => cases h
    | key k =>
      obtain ⟨member, hmember, heq⟩ := List.mem_map.1 (Entries.mem_of_get?_eq_some h)
      rw [← (Prod.mk.inj heq).2]
      exact hmembers member hmember
  | _ => cases h

theorem IsPlain.hostFree {s : Subject} (hs : s.IsPlain) : s.HostFree := by
  intro steps o h
  induction steps generalizing s with
  | nil =>
    obtain rfl := Option.some.inj h
    cases hs
  | cons step rest ih =>
    obtain ⟨part, hpart, hrest⟩ := Option.bind_eq_some_iff.1 h
    exact ih (hs.of_part? hpart) hrest

end Subject

namespace Resolver

variable {r : Resolver} {context : Context}

/-! ### From positions to values -/

theorem isName_text {s : Subject} {step : Step} (hnames : s.Names step) :
    Path.IsName step.text := by
  cases step with
  | index i => exact Path.isName_ofInt i
  | key k =>
    cases k with
    | int n => exact Path.isName_ofInt n.toInt
    | text name => exact hnames

/-- Looking up the text of a step is taking the step. -/
theorem lookup_text {s part : Subject} {step : Step} (hpart : s.part? step = some part)
    (hnames : s.Names step) : r.lookup step.text s = .ok part := by
  cases s with
  | sequence items =>
    cases step with
    | key k => cases hpart
    | index i =>
      have hindex : Numeral.readIndex? (Step.index i).text = some i :=
        Numeral.readIndex?_ofNat hnames
      have hitem : items[i]? = some part := hpart
      rw [lookup, hindex, Option.bind_some, hitem]
  | map entries =>
    cases step with
    | index i => cases hpart
    | key k =>
      have hentry : named? (Step.key k).text entries = some part := by
        have hget : Entries.get? k entries = some part := hpart
        cases k with
        | text name => rw [named?, Step.text, Key.segment, hget, Option.some_or]
        | int n =>
          have hread : Key.readInt? (Key.int n).segment = some (.int n) := by
            rw [Key.readInt?, Key.segment, Numeral.readWord?_ofInt, Option.map_some]
          rw [named?, Step.text, hnames entries rfl, hread, Option.none_or, Option.bind_some, hget]
      rw [lookup, hentry]
  | _ => cases hpart

theorem resolveChain_text {s part : Subject} {step : Step} (hpart : s.part? step = some part)
    (hnames : s.Names step) (budget : Nat) :
    r.resolveChain context budget step.text s = .ok part := by
  have hname := isName_text hnames
  rw [resolveChain_lookup hname.no_dot hname.not_blank hname.classify]
  exact lookup_text hpart hnames

theorem resolveChain_path {s v : Subject} {steps : List Step} (h : s.descend? steps = some v)
    (hnames : s.NamesAll steps) (budget : Nat) :
    r.resolveChain context budget (Step.path steps) s = .ok v := by
  induction steps generalizing s with
  | nil =>
    obtain rfl := Option.some.inj h
    rw [Step.path, List.map_nil, String.intercalate_nil]
    rfl
  | cons step rest ih =>
    obtain ⟨part, hpart, hrest⟩ := Option.bind_eq_some_iff.1 h
    have hstep : r.resolveChain context budget step.text s = .ok part :=
      resolveChain_text hpart hnames.1 budget
    cases rest with
    | nil =>
      obtain rfl := Option.some.inj hrest
      rw [Step.path, List.map_singleton, String.intercalate_singleton, hstep]
    | cons next rest =>
      rw [Step.path, List.map_cons, List.map_cons, String.intercalate_cons_cons,
        resolveChain_append, hstep]
      exact ih hrest (hnames.2 part hpart)

/-! ### From values to positions -/

theorem exists_object_of_invokeOnce {segment method : String} {s v : Subject}
    (h : r.invokeOnce segment method s = .ok v) : ∃ o, s = .object o := by
  cases s with
  | object o => exact ⟨o, rfl⟩
  | _ => cases h

/-- Without objects of the host, only a call on an empty collection succeeds. -/
theorem eq_of_invoke {segment method : String} {s v : Subject} (hs : s.HostFree)
    (h : r.invoke segment method s = .ok v) : v = s := by
  cases s with
  | sequence items =>
    cases items with
    | nil => exact (Except.ok.inj h).symm
    | cons item rest =>
      rw [invoke, Traversal.map_eq_ok_iff] at h
      obtain ⟨values, hvalues, -⟩ := h
      obtain ⟨value, hvalue⟩ :=
        Traversal.exists_mapM_eq_ok_iff.1 ⟨values, hvalues⟩ item List.mem_cons_self
      obtain ⟨o, rfl⟩ := exists_object_of_invokeOnce hvalue
      exact absurd rfl (hs [.index 0] o)
  | map entries =>
    cases entries with
    | nil => exact (Except.ok.inj h).symm
    | cons entry rest =>
      obtain ⟨key, item⟩ := entry
      rw [invoke, Traversal.map_eq_ok_iff] at h
      obtain ⟨values, hvalues, -⟩ := h
      obtain ⟨value, hvalue⟩ :=
        Traversal.exists_mapM_eq_ok_iff.1 ⟨values, hvalues⟩ (key, item) List.mem_cons_self
      obtain ⟨result, hresult, -⟩ := Traversal.map_eq_ok_iff.1 hvalue
      obtain ⟨o, rfl⟩ := exists_object_of_invokeOnce hresult
      refine absurd ?_ (hs [.key key] o)
      rw [Subject.descend?, Subject.part?, Entries.get?, if_pos rfl]
      rfl
  | _ =>
    simp only [invoke] at h
    obtain ⟨o, ho⟩ := exists_object_of_invokeOnce h
    exact absurd ho (hs.ne_object o)

theorem exists_part?_of_lookup {name : String} {s v : Subject} (hs : s.HostFree)
    (h : r.lookup name s = .ok v) : ∃ step, s.part? step = some v := by
  cases s with
  | map entries =>
    rw [lookup] at h
    split at h
    · rename_i value hentry
      obtain rfl := Except.ok.inj h
      rw [named?, Option.or_eq_some_iff] at hentry
      obtain htext | ⟨-, hint⟩ := hentry
      · exact ⟨.key (.text name), htext⟩
      · obtain ⟨key, -, hkey⟩ := Option.bind_eq_some_iff.1 hint
        exact ⟨.key key, hkey⟩
    · cases h
  | sequence items =>
    rw [lookup] at h
    split at h
    · rename_i value hitem
      obtain rfl := Except.ok.inj h
      obtain ⟨i, -, hi⟩ := Option.bind_eq_some_iff.1 hitem
      exact ⟨.index i, hi⟩
    · cases h
  | object o => exact absurd rfl (hs.ne_object o)
  | _ => cases h

/-- A segment without a scope stays, or takes one step. -/
theorem exists_descend?_of_resolveSegment {segment : String} {budget : Nat} {s v : Subject}
    (hs : s.HostFree) (hsegment : ¬ [':', ':'] <:+: segment.toList)
    (h : r.resolveSegment context budget s segment = .ok v) :
    ∃ steps, s.descend? steps = some v := by
  obtain ⟨method, hcall⟩ | hlookup := Segment.classify_call_or_lookup hsegment
  · rw [resolveSegment_call hcall] at h
    obtain rfl := eq_of_invoke hs h
    exact ⟨[], rfl⟩
  · rw [resolveSegment_lookup hlookup] at h
    obtain ⟨step, hstep⟩ := exists_part?_of_lookup hs h
    exact ⟨[step], Subject.descend?_cons_of_part? hstep []⟩

theorem exists_descend?_of_foldlM {segments : List String} {budget : Nat} {s v : Subject}
    (hs : s.HostFree) (hsegments : ∀ segment ∈ segments, ¬ [':', ':'] <:+: segment.toList)
    (h : segments.foldlM (r.resolveSegment context budget) s = .ok v) :
    ∃ steps, s.descend? steps = some v := by
  induction segments generalizing s with
  | nil => exact ⟨[], congrArg some (Except.ok.inj h)⟩
  | cons segment rest ih =>
    obtain ⟨hsegment, hrest⟩ := List.forall_mem_cons.1 hsegments
    rw [List.foldlM_cons, Traversal.bind_eq_ok_iff] at h
    obtain ⟨part, hpart, hvalue⟩ := h
    obtain ⟨steps, hsteps⟩ := exists_descend?_of_resolveSegment hs hsegment hpart
    obtain ⟨more, hmore⟩ := ih (hs.of_descend? hsteps) hrest hvalue
    refine ⟨steps ++ more, ?_⟩
    rw [Subject.descend?_append, hsteps, Option.bind_some, hmore]

/-- The path of a position resolves to what is there, whatever the context and the limit, and on a
subject without objects of the host every value of a path without scopes is at a position. -/
theorem resolvePath_position (r : Resolver) (context : Context) (s : Subject) :
    (∀ steps v, s.descend? steps = some v → s.NamesAll steps →
      r.resolvePath s (some (Step.path steps)) context = .ok v) ∧
    (s.HostFree → ∀ path v, ¬ [':', ':'] <:+: path.toList →
      r.resolvePath s (some path) context = .ok v → ∃ steps, s.descend? steps = some v) := by
  constructor
  · intro steps v h hnames
    exact resolveChain_path h hnames r.maxDepth
  · intro hs path v hpath h
    exact exists_descend?_of_foldlM hs
      (fun _ hsegment => Path.unscoped_of_mem_segments hpath hsegment) h

theorem resolvePath_position_pets :
    let pets : Subject := .map [(.text "pets", .sequence [.map [(.int (-3), .bool true)]])]
    let steps : List Step := [.key (.text "pets"), .index 0, .key (.int (-3))]
    let r : Resolver := ⟨0, .silent⟩
    let nobody : Subject := .map [(.text "pets", .sequence [])]
    Step.path steps = "pets.0.-3" ∧ pets.descend? steps = some (.bool true) ∧
      pets.NamesAll steps ∧ r.resolvePath pets (some "pets.0.-3") .empty = .ok (.bool true) ∧
      nobody.HostFree ∧ r.resolvePath nobody (some "pets.feed()") .empty = .ok (.sequence []) ∧
      ∃ steps, nobody.descend? steps = some (.sequence []) := by
  intro pets steps r nobody
  have hpath : Step.path steps = "pets.0.-3" := by
    show String.intercalate "." ["pets", Numeral.ofNat 0, "-" ++ Numeral.ofNat 3] = _
    rw [Numeral.ofNat_of_lt (by decide : 0 < 10), Numeral.ofNat_of_lt (by decide : 3 < 10)]
    rfl
  have hnames : pets.NamesAll steps := by
    have hname : Path.IsName "pets" := ⟨by decide, by decide, by decide, by decide⟩
    refine ⟨hname, fun part hpart => ?_⟩
    obtain rfl := Option.some.inj hpart
    refine ⟨(by decide : 0 < UInt64.size), fun part hpart => ?_⟩
    obtain rfl := Option.some.inj hpart
    refine ⟨fun entries hentries => ?_, fun _ _ => trivial⟩
    obtain rfl := Subject.map.inj hentries
    rfl
  have hnobody : nobody.HostFree := by
    have hempty : (Json.array []).IsDocument := .array (List.forall_mem_nil _)
    have hdocument : (Json.object [("pets", .array [])]).IsDocument :=
      .object (List.pairwise_singleton _ _) (List.forall_mem_singleton.2 hempty)
    have hplain : nobody.IsPlain := Subject.isPlain_ofJson hdocument
    exact hplain.hostFree
  have hcall : r.resolvePath nobody (some "pets.feed()") .empty = .ok (.sequence []) := by
    have hsegments : Path.segments "pets.feed()" = ["pets", "feed()"] := by decide
    have hpets : Segment.classify "pets" = .lookup "pets" := by decide
    have hfeed : Segment.classify "feed()" = .call "feed" := by decide
    rw [resolvePath, Option.getD_some, resolveChain, hsegments, List.foldlM_cons,
      resolveSegment_lookup hpets]
    show ["feed()"].foldlM (r.resolveSegment .empty 0) (.sequence []) = _
    rw [List.foldlM_cons, resolveSegment_call hfeed]
    rfl
  refine ⟨hpath, rfl, hnames, ?_, hnobody, hcall, ?_⟩
  · rw [← hpath]
    exact (resolvePath_position r .empty pets).1 steps (.bool true) rfl hnames
  · exact (resolvePath_position r .empty nobody).2 hnobody "pets.feed()" _ (by decide +kernel) hcall

end Resolver

end Gleaner
