import Gleaner.Proofs.Resolver.Limit
import Gleaner.Proofs.Resolver.Refusal

/-!
# What a resolution asks the host

On the way to a result the host is asked for dynamic fields and for methods, and what it answers may
be a fault. Which inquiries are made depends on the answers to those before, so they are listed step
by step from the results of the steps. The list accounts for the result in two ways. The first fault
ends it, and comes back as the cause of an extraction, whose messages are those of the fault and one
more; where no answer is a fault, no failure has a cause. And another host with the same answers to
what is listed leads to the same result, so no other answer plays a part.

Both are shown of a resolution from its steps: if each step of a fold or a traversal is accounted
for by its inquiries, the whole is.
-/

namespace Gleaner

/-- What the host may fail to answer. -/
inductive Inquiry where
  | dynamicField (o : HostObject) (name : String)
  | call (o : HostObject) (method : String)

namespace Inquiry

def answer (host : Host) : Inquiry → Option (Except Cause Subject)
  | dynamicField o name => host.dynamicField o name
  | call o method => host.call o method

def complaint : Inquiry → String
  | dynamicField _ name => "reading field '" ++ name ++ "' failed"
  | call _ method => "invocation of '" ++ method ++ "()' failed"

/-- What is made of an answer: a value, a failure that holds the fault, or a refusal where the host
does not know the name. -/
def settle (q : Inquiry) (accessor subjectType unknown : String) :
    Option (Except Cause Subject) → Except Failure Subject
  | some (.ok value) => .ok value
  | some (.error fault) =>
    .error ((Failure.extraction accessor subjectType q.complaint).withCause fault)
  | none => .error (.extraction accessor subjectType unknown)

/-! ### The inquiries of several steps -/

variable {α β : Type}

def after (asks : α → List Inquiry) : Except Failure α → List Inquiry
  | .ok value => asks value
  | .error _ => []

/-- The inquiries of a traversal, up to the element that fails. -/
def ofEach (f : α → Except Failure β) (asks : α → List Inquiry) : List α → List Inquiry
  | [] => []
  | item :: rest => asks item ++ after (fun _ => ofEach f asks rest) (f item)

def along (f : β → α → Except Failure β) (asks : β → α → List Inquiry) :
    List α → β → List Inquiry
  | [], _ => []
  | item :: rest, value => asks value item ++ after (along f asks rest) (f value item)

end Inquiry

/-! ### The inquiries of a resolution -/

namespace Resolver

def onceInquiries (method : String) : Subject → List Inquiry
  | .object o => [.call o method]
  | _ => []

def invokeInquiries (r : Resolver) (segment method : String) : Subject → List Inquiry
  | .sequence items => Inquiry.ofEach (r.invokeOnce segment method) (onceInquiries method) items
  | .map entries =>
    Inquiry.ofEach
      (fun entry => (r.invokeOnce segment method entry.2).map fun value => (entry.1, value))
      (fun entry => onceInquiries method entry.2) entries
  | other => onceInquiries method other

/-- The dynamic getter is asked only for a field that is not declared. -/
def lookupInquiries (r : Resolver) (name : String) : Subject → List Inquiry
  | .object o => if (r.host.field o name).isSome then [] else [.dynamicField o name]
  | _ => []

def segmentInquiries (r : Resolver) (context : Context) : Nat → Subject → String → List Inquiry
  | budget, subject, segment =>
    match Segment.classify segment with
    | .scope entry rest =>
      match context.lookup? entry with
      | none => []
      | some found =>
        if Text.isBlank rest then []
        else
          match budget with
          | 0 => []
          | budget + 1 => segmentInquiries r context budget found rest
    | .call method => r.invokeInquiries segment method subject
    | .lookup name => r.lookupInquiries name subject

def chainInquiries (r : Resolver) (context : Context) (budget : Nat) (path : String)
    (subject : Subject) : List Inquiry :=
  Inquiry.along (r.resolveSegment context budget) (r.segmentInquiries context budget)
    (Path.segments path) subject

def followInquiries (r : Resolver) (context : Context) (budget : Nat) (subject : Subject) :
    Subject → List Inquiry
  | .string path => r.chainInquiries context budget path subject
  | _ => []

def accessorInquiries (r : Resolver) (context : Context) (subject : Subject) :
    Nat → Accessor → List Inquiry
  | budget, .path text => r.chainInquiries context budget text subject
  | 0, .computed _ => []
  | budget + 1, .computed inner =>
    accessorInquiries r context subject budget inner ++
      Inquiry.after (r.followInquiries context budget subject)
        (r.resolveAccessor context subject budget inner)

/-- What the host is asked while an accessor is resolved, in order. -/
def inquiries (r : Resolver) (subject : Subject) (accessor : Accessor) (context : Context) :
    List Inquiry :=
  r.accessorInquiries context subject r.maxDepth accessor

def withHost (host : Host) (r : Resolver) : Resolver :=
  { r with host := host }

end Resolver

/-! ### Accounting for a result -/

/-- No answer to the inquiries is a fault. -/
def Host.Answers (host : Host) (asked : List Inquiry) : Prop :=
  ∀ q ∈ asked, ∀ fault, q.answer host ≠ some (.error fault)

/-- Two hosts declare the same fields and answer the same to the inquiries. -/
structure Host.AgreesOn (host : Host) (asked : List Inquiry) (other : Host) : Prop where
  field : other.field = host.field
  answer : ∀ q ∈ asked, q.answer other = q.answer host

/-- How a run can end after its inquiries. -/
inductive Ended (host : Host) {α : Type} : List Inquiry → Except Failure α → Prop
  | value {asked : List Inquiry} (hasked : host.Answers asked) (value : α) :
      Ended host asked (.ok value)
  | refused {asked : List Inquiry} (hasked : host.Answers asked)
      (accessor subjectType message : String) :
      Ended host asked (.error (.extraction accessor subjectType message))
  | faulted {before : List Inquiry} (hbefore : host.Answers before) {q : Inquiry} {fault : Cause}
      (hfault : q.answer host = some (.error fault)) (accessor subjectType : String) :
      Ended host (before ++ [q])
        (.error ((Failure.extraction accessor subjectType q.complaint).withCause fault))

/-- The inquiries of a run account for its result `x`; `y` is what the run results in at the other
host. -/
structure Accounts (host other : Host) {α : Type} (asked : List Inquiry)
    (x y : Except Failure α) : Prop where
  ended : Ended host asked x
  replayed : host.AgreesOn asked other → y = x

section Accounts

variable {host other : Host} {α β : Type}

theorem Host.answers_nil : host.Answers [] :=
  List.forall_mem_nil _

theorem Host.Answers.append {first second : List Inquiry} (hfirst : host.Answers first)
    (hsecond : host.Answers second) : host.Answers (first ++ second) :=
  List.forall_mem_append.2 ⟨hfirst, hsecond⟩

theorem Host.AgreesOn.left {first second : List Inquiry}
    (h : host.AgreesOn (first ++ second) other) : host.AgreesOn first other :=
  ⟨h.field, (List.forall_mem_append.1 h.answer).1⟩

theorem Host.AgreesOn.right {first second : List Inquiry}
    (h : host.AgreesOn (first ++ second) other) : host.AgreesOn second other :=
  ⟨h.field, (List.forall_mem_append.1 h.answer).2⟩

theorem Ended.append {first second : List Inquiry} {x : Except Failure α}
    (hfirst : host.Answers first) (h : Ended host second x) : Ended host (first ++ second) x := by
  cases h with
  | value hsecond value => exact .value (hfirst.append hsecond) value
  | refused hsecond accessor subjectType message =>
    exact .refused (hfirst.append hsecond) accessor subjectType message
  | faulted hbefore hfault accessor subjectType =>
    rw [← List.append_assoc]
    exact .faulted (hfirst.append hbefore) hfault accessor subjectType

theorem Ended.bind {first : List Inquiry} {asks : α → List Inquiry} {x : Except Failure α}
    {f : α → Except Failure β} (hx : Ended host first x)
    (hf : ∀ value, Ended host (asks value) (f value)) :
    Ended host (first ++ Inquiry.after asks x) (x >>= f) := by
  cases hx with
  | value hfirst value => exact (hf value).append hfirst
  | refused hfirst accessor subjectType message =>
    rw [Inquiry.after, List.append_nil]
    exact .refused hfirst accessor subjectType message
  | faulted hbefore hfault accessor subjectType =>
    rw [Inquiry.after, List.append_nil]
    exact .faulted hbefore hfault accessor subjectType

theorem Ended.eq_of_fault {asked : List Inquiry} {x : Except Failure α} (h : Ended host asked x)
    {q : Inquiry} (hq : q ∈ asked) {fault : Cause} (hfault : q.answer host = some (.error fault)) :
    ∃ accessor subjectType, x =
      .error ((Failure.extraction accessor subjectType q.complaint).withCause fault) := by
  cases h with
  | value hasked value => exact absurd hfault (hasked q hq fault)
  | refused hasked => exact absurd hfault (hasked q hq fault)
  | @faulted before hbefore other _ hother accessor subjectType =>
    obtain hq | hq := List.mem_append.1 hq
    · exact absurd hfault (hbefore q hq fault)
    · obtain rfl := List.mem_singleton.1 hq
      obtain rfl := Except.error.inj (Option.some.inj (hother.symm.trans hfault))
      exact ⟨accessor, subjectType, rfl⟩

theorem Ended.eq_of_answers {asked : List Inquiry} {failure : Failure}
    (h : Ended (α := α) host asked (.error failure)) (hasked : host.Answers asked) :
    ∃ accessor subjectType message, failure = .extraction accessor subjectType message := by
  cases h with
  | refused _ accessor subjectType message => exact ⟨accessor, subjectType, message, rfl⟩
  | faulted hbefore hfault =>
    exact absurd hfault (hasked _ (List.mem_append_right _ List.mem_cons_self) _)

namespace Accounts

theorem ok (value : α) : Accounts host other [] (.ok value) (.ok value) :=
  ⟨.value Host.answers_nil value, fun _ => rfl⟩

theorem refused (accessor subjectType message : String) :
    Accounts (α := α) host other [] (.error (.extraction accessor subjectType message))
      (.error (.extraction accessor subjectType message)) :=
  ⟨.refused Host.answers_nil accessor subjectType message, fun _ => rfl⟩

theorem settle (host other : Host) (q : Inquiry) (accessor subjectType unknown : String) :
    Accounts host other [q] (q.settle accessor subjectType unknown (q.answer host))
      (q.settle accessor subjectType unknown (q.answer other)) := by
  refine ⟨?_, fun hagrees => congrArg _ (hagrees.answer q List.mem_cons_self)⟩
  have hanswers (h : ∀ fault, q.answer host ≠ some (.error fault)) : host.Answers [q] :=
    List.forall_mem_singleton.2 h
  cases hanswer : q.answer host with
  | none =>
    apply Ended.refused (hanswers _)
    simp [hanswer]
  | some result =>
    cases result with
    | ok value =>
      apply Ended.value (hanswers _)
      simp [hanswer]
    | error fault => exact .faulted Host.answers_nil hanswer accessor subjectType

theorem bind {first : List Inquiry} {asks : α → List Inquiry} {x y : Except Failure α}
    {f g : α → Except Failure β} (hx : Accounts host other first x y)
    (hf : ∀ value, Accounts host other (asks value) (f value) (g value)) :
    Accounts host other (first ++ Inquiry.after asks x) (x >>= f) (y >>= g) := by
  refine ⟨hx.ended.bind fun value => (hf value).ended, ?_⟩
  intro hagrees
  rw [hx.replayed hagrees.left]
  cases x with
  | error failure => rfl
  | ok value => exact (hf value).replayed hagrees.right

theorem map {asked : List Inquiry} {x y : Except Failure α} (h : Accounts host other asked x y)
    (f : α → β) : Accounts host other asked (x.map f) (y.map f) := by
  refine ⟨?_, fun hagrees => congrArg (Except.map f) (h.replayed hagrees)⟩
  cases h.ended with
  | value hasked value => exact .value hasked (f value)
  | refused hasked accessor subjectType message =>
    exact .refused hasked accessor subjectType message
  | faulted hbefore hfault accessor subjectType =>
    exact .faulted hbefore hfault accessor subjectType

theorem mapM {f g : α → Except Failure β} {asks : α → List Inquiry}
    (h : ∀ item, Accounts host other (asks item) (f item) (g item)) (items : List α) :
    Accounts host other (Inquiry.ofEach f asks items) (items.mapM f) (items.mapM g) := by
  induction items with
  | nil => exact ok []
  | cons item rest ih =>
    rw [List.mapM_cons, List.mapM_cons]
    exact (h item).bind fun result => ih.map (List.cons result)

theorem foldlM {f g : β → α → Except Failure β} {asks : β → α → List Inquiry}
    (h : ∀ value item, Accounts host other (asks value item) (f value item) (g value item))
    (items : List α) (start : β) :
    Accounts host other (Inquiry.along f asks items start) (items.foldlM f start)
      (items.foldlM g start) := by
  induction items generalizing start with
  | nil => exact ok start
  | cons item rest ih =>
    rw [List.foldlM_cons, List.foldlM_cons]
    exact (h start item).bind ih

end Accounts

end Accounts

namespace Resolver

variable {r : Resolver} {context : Context} {other : Host}

/-! ### Each step is accounted for -/

theorem invokeOnce_object (segment method : String) (o : HostObject) :
    r.invokeOnce segment method (.object o) =
      (Inquiry.call o method).settle segment o.typeName
        ("method '" ++ method ++ "' is not callable on " ++ o.typeName) (r.host.call o method) := by
  rw [invokeOnce]
  cases r.host.call o method with
  | none => rfl
  | some result => cases result <;> rfl

theorem lookup_declared {name : String} {o : HostObject} {value : Subject}
    (h : r.host.field o name = some value) : r.lookup name (.object o) = .ok value := by
  rw [lookup, h]

theorem lookup_undeclared {name : String} {o : HostObject} (h : r.host.field o name = none) :
    r.lookup name (.object o) =
      (Inquiry.dynamicField o name).settle name o.typeName
        ("field '" ++ name ++ "' is not accessible on " ++ o.typeName)
        (r.host.dynamicField o name) := by
  rw [lookup, h]
  cases r.host.dynamicField o name with
  | none => rfl
  | some result => cases result <;> rfl

theorem accounts_invokeOnce (segment method : String) (subject : Subject) :
    Accounts r.host other (onceInquiries method subject) (r.invokeOnce segment method subject)
      ((r.withHost other).invokeOnce segment method subject) := by
  cases subject with
  | object o =>
    rw [invokeOnce_object, invokeOnce_object]
    exact .settle r.host other (.call o method) _ _ _
  | _ => exact .refused _ _ _

theorem accounts_invoke (segment method : String) (subject : Subject) :
    Accounts r.host other (r.invokeInquiries segment method subject)
      (r.invoke segment method subject) ((r.withHost other).invoke segment method subject) := by
  cases subject with
  | sequence items => exact (Accounts.mapM (accounts_invokeOnce segment method) items).map _
  | map entries =>
    apply (Accounts.mapM _ entries).map
    intro entry
    exact (accounts_invokeOnce segment method entry.2).map fun value => (entry.1, value)
  | _ =>
    rw [invokeInquiries, invoke, invoke]
    · exact accounts_invokeOnce segment method _
    all_goals
      intro parts heq
      cases heq

theorem accounts_lookup (name : String) (subject : Subject) :
    Accounts r.host other (r.lookupInquiries name subject) (r.lookup name subject)
      ((r.withHost other).lookup name subject) := by
  cases subject with
  | object o =>
    cases hfield : r.host.field o name with
    | some value =>
      rw [lookupInquiries, hfield, lookup_declared hfield]
      refine ⟨.value Host.answers_nil value, fun hagrees => lookup_declared ?_⟩
      rw [← hfield, ← hagrees.field]
      rfl
    | none =>
      have hsettled := Accounts.settle r.host other (.dynamicField o name) name o.typeName
        ("field '" ++ name ++ "' is not accessible on " ++ o.typeName)
      rw [lookupInquiries, hfield, lookup_undeclared hfield]
      refine ⟨hsettled.ended, fun hagrees => ?_⟩
      have hother : (r.withHost other).host.field o name = none := by
        rw [← hfield, ← hagrees.field]
        rfl
      rw [lookup_undeclared hother]
      exact hsettled.replayed hagrees
  | map entries =>
    rw [lookup, lookup]
    cases named? name entries with
    | some value => exact .ok value
    | none => exact .refused _ _ _
  | sequence items =>
    rw [lookup, lookup]
    cases (Numeral.readIndex? name).bind fun i => items[i]? with
    | some value => exact .ok value
    | none => exact .refused _ _ _
  | _ => exact .refused _ _ _

theorem accounts_resolveSegment (budget : Nat) (subject : Subject) (segment : String) :
    Accounts r.host other (r.segmentInquiries context budget subject segment)
      (r.resolveSegment context budget subject segment)
      ((r.withHost other).resolveSegment context budget subject segment) := by
  fun_induction segmentInquiries r context budget subject segment with
  | case1 budget subject segment entry rest hscope hnone =>
    rw [resolveSegment_missing hscope hnone, resolveSegment_missing hscope hnone]
    exact .refused _ _ _
  | case2 budget subject segment entry rest hscope found hfound hblank =>
    rw [resolveSegment_blank hscope hfound hblank, resolveSegment_blank hscope hfound hblank]
    exact .ok found
  | case3 subject segment entry rest hscope found hfound hblank =>
    rw [resolveSegment_zero hscope hfound hblank, resolveSegment_zero hscope hfound hblank]
    exact .refused _ _ _
  | case4 subject segment entry rest hscope found hfound hblank budget ih =>
    rw [resolveSegment_succ hscope hfound hblank, resolveSegment_succ hscope hfound hblank]
    exact ih
  | case5 budget subject segment method hcall =>
    rw [resolveSegment_call hcall, resolveSegment_call hcall]
    exact accounts_invoke segment method subject
  | case6 budget subject segment name hlookup =>
    rw [resolveSegment_lookup hlookup, resolveSegment_lookup hlookup]
    exact accounts_lookup name subject

theorem accounts_resolveChain (budget : Nat) (path : String) (subject : Subject) :
    Accounts r.host other (r.chainInquiries context budget path subject)
      (r.resolveChain context budget path subject)
      ((r.withHost other).resolveChain context budget path subject) :=
  .foldlM (accounts_resolveSegment budget) _ subject

theorem accounts_follow (budget : Nat) (inner : Accessor) (subject value : Subject) :
    Accounts r.host other (r.followInquiries context budget subject value)
      (r.follow context budget inner subject value)
      ((r.withHost other).follow context budget inner subject value) := by
  cases value with
  | null => exact .ok subject
  | string path => exact accounts_resolveChain budget path subject
  | _ => exact .refused _ _ _

theorem accounts_resolveAccessor (budget : Nat) (accessor : Accessor) (subject : Subject) :
    Accounts r.host other (r.accessorInquiries context subject budget accessor)
      (r.resolveAccessor context subject budget accessor)
      ((r.withHost other).resolveAccessor context subject budget accessor) := by
  induction accessor generalizing budget with
  | path text =>
    rw [accessorInquiries, resolveAccessor_path, resolveAccessor_path]
    exact accounts_resolveChain budget text subject
  | computed inner ih =>
    cases budget with
    | zero => exact .refused _ _ _
    | succ budget =>
      rw [accessorInquiries, resolveAccessor_computed, resolveAccessor_computed]
      exact (ih budget).bind (accounts_follow budget inner subject)

/-- Whatever a resolution fails with is an extraction. A fault of the host is the cause of it, and
has its messages in front of the single one that is added; a failure without a fault has no cause
and a single message. What counts as a fault are the answers that the host gives to the inquiries
made: no other answer plays a part in the result. -/
theorem resolve_wraps_faults (r : Resolver) (subject : Subject) (accessor : Accessor)
    (context : Context) :
    (∀ failure, r.resolve subject accessor context = .error failure →
      failure.kind = .extraction) ∧
    (∀ q ∈ r.inquiries subject accessor context,
      ∀ fault, q.answer r.host = some (.error fault) →
        ∃ failure, r.resolve subject accessor context = .error failure ∧
          failure.cause? = some fault ∧ failure.messages = fault.messages ++ [q.complaint]) ∧
    (r.host.Answers (r.inquiries subject accessor context) →
      ∀ failure, r.resolve subject accessor context = .error failure →
        failure.cause? = none ∧ ∃ message, failure.messages = [message]) ∧
    ∀ other, r.host.AgreesOn (r.inquiries subject accessor context) other →
      (r.withHost other).resolve subject accessor context =
        r.resolve subject accessor context := by
  have haccounts (other : Host) :
      Accounts r.host other (r.inquiries subject accessor context)
        (r.resolve subject accessor context)
        ((r.withHost other).resolve subject accessor context) :=
    accounts_resolveAccessor r.maxDepth accessor subject
  have hended := (haccounts r.host).ended
  refine ⟨fun failure => kind_of_resolve, ?_, ?_, fun other => (haccounts other).replayed⟩
  · intro q hq fault hfault
    obtain ⟨name, subjectType, hresult⟩ := hended.eq_of_fault hq hfault
    exact ⟨_, hresult, rfl, rfl⟩
  · intro hasked failure hresult
    rw [hresult] at hended
    obtain ⟨name, subjectType, message, rfl⟩ := hended.eq_of_answers hasked
    exact ⟨rfl, message, rfl⟩

theorem resolve_wraps_faults_scale :
    let scale : HostObject := ⟨0, "Scale", .null⟩
    let fault : Cause := .failure (.stage 2
      ((Failure.extraction "load" "Scale" "nothing to weigh").withCause (.fault "no load")))
    let host : Host := { Host.silent with call := fun _ _ => some (.error fault) }
    let r : Resolver := ⟨32, host⟩
    let weigh : Accessor := .path "weigh()"
    r.inquiries (.object scale) weigh .empty = [.call scale "weigh"] ∧
    (Inquiry.call scale "weigh").answer host = some (.error fault) ∧
    (∃ failure, r.resolve (.object scale) weigh .empty = .error failure ∧
      failure.kind = .extraction ∧ failure.cause? = some fault ∧
      failure.messages = ["nothing to weigh", "invocation of 'weigh()' failed"]) ∧
    host.Answers (r.inquiries .null weigh .empty) ∧
    (∃ failure, r.resolve .null weigh .empty = .error failure ∧ failure.cause? = none ∧
      ∃ message, failure.messages = [message]) ∧
    host.AgreesOn (r.inquiries .null weigh .empty) .silent ∧
    (r.withHost .silent).resolve .null weigh .empty = r.resolve .null weigh .empty := by
  intro scale fault host r weigh
  have hasked : r.inquiries (.object scale) weigh .empty = [.call scale "weigh"] := by rfl
  have hnothing : r.inquiries .null weigh .empty = [] := by rfl
  have hnull : r.resolve .null weigh .empty =
      .error (.extraction "weigh()" "null" "cannot invoke 'weigh()' on null") := by rfl
  have hanswers : host.Answers (r.inquiries .null weigh .empty) := by
    rw [hnothing]
    exact Host.answers_nil
  have hagrees : host.AgreesOn (r.inquiries .null weigh .empty) .silent := by
    rw [hnothing]
    exact ⟨rfl, List.forall_mem_nil _⟩
  obtain ⟨hkind, hfault, -, -⟩ := resolve_wraps_faults r (.object scale) weigh .empty
  obtain ⟨-, -, hrefused, hother⟩ := resolve_wraps_faults r .null weigh .empty
  obtain ⟨failure, hfailure, hcause, hmessages⟩ :=
    hfault (.call scale "weigh") (hasked ▸ List.mem_cons_self) fault rfl
  exact ⟨hasked, rfl, ⟨failure, hfailure, hkind failure hfailure, hcause, hmessages⟩, hanswers,
    ⟨_, hnull, hrefused hanswers _ hnull⟩, hagrees, hother .silent hagrees⟩

end Resolver

end Gleaner
