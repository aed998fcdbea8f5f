import Gleaner.Failure

/-!
# Failures lose no message

Whatever is done to a failure, its list of messages only grows: at the end by a message of its own,
at the front by those of a cause. Two facts follow for every failure that can be built. Going back
through the causes, wrappers included, each list of messages begins the one before it. And the
messages that were ever given to the failure, or that a cause brought along, stand in the final list
in the order in which they were put together, also those of a cause that a later cause replaced.
-/

namespace Gleaner

/-! ### The failures behind a failure -/

def Cause.failure? : Cause → Option Failure
  | .failure f => some f
  | .fault _ => none
  | .unreadable => none

namespace Failure

def prior? (f : Failure) : Option Failure :=
  f.cause?.bind Cause.failure?

/-- A failure and all failures behind it, the latest first. -/
def chain : Failure → List Failure
  | plain site messages (some (.failure prior)) =>
    plain site messages (some (.failure prior)) :: prior.chain
  | plain site messages cause => [plain site messages cause]
  | stage index inner => stage index inner :: inner.chain

/-- The chain goes from each failure to the one right behind it. -/
theorem chain_eq (f : Failure) : f.chain = f :: (f.prior?.map chain).getD [] := by
  cases f with
  | stage index inner => simp [chain, prior?, cause?, Cause.failure?]
  | plain site messages cause =>
    match cause with
    | none => simp [chain, prior?, cause?]
    | some (.failure prior) => simp [chain, prior?, cause?, Cause.failure?]
    | some (.fault text) => simp [chain, prior?, cause?, Cause.failure?]
    | some .unreadable => simp [chain, prior?, cause?, Cause.failure?]

theorem self_mem_chain (f : Failure) : f ∈ f.chain := by
  rw [chain_eq]
  exact List.mem_cons_self

/-! ### What is added to the messages -/

theorem messages_withMessage (f : Failure) (message : String) :
    (f.withMessage message).messages = f.messages ++ [message] := by
  fun_induction withMessage message f with
  | case1 site messages cause => rfl
  | case2 index inner ih => exact ih

theorem messages_withCause (f : Failure) (cause : Cause) :
    (f.withCause cause).messages = cause.messages ++ f.messages := by
  fun_induction withCause cause f with
  | case1 site messages cause' => rfl
  | case2 index inner ih => exact ih

theorem messages_onSite (f : Failure) (change : Site → Site) :
    (f.onSite change).messages = f.messages := by
  cases f <;> rfl

theorem mem_chain_withCause (f cause : Failure) :
    cause ∈ (f.withCause (.failure cause)).chain := by
  fun_induction withCause (.failure cause) f with
  | case1 site messages cause' => exact List.mem_cons_of_mem _ cause.self_mem_chain
  | case2 index inner ih => exact List.mem_cons_of_mem _ ih

/-! ### Causes come first

The invariant speaks of the whole chain; what has to be shown of a failure is only that its messages
begin with those right behind it.
-/

/-- Going back through the causes, each list of messages begins the ones before it. -/
def CausesFirst (f : Failure) : Prop :=
  f.chain.Pairwise fun holder cause => cause.messages <+: holder.messages

theorem CausesFirst.begins_of_mem {f g : Failure} (hf : f.CausesFirst) (hg : g ∈ f.chain) :
    g.messages <+: f.messages := by
  rw [CausesFirst, chain_eq, List.pairwise_cons] at hf
  rw [chain_eq, List.mem_cons] at hg
  obtain rfl | hg := hg
  · exact List.prefix_rfl
  · exact hf.1 g hg

theorem causesFirst_of_prior?_eq_none {f : Failure} (h : f.prior? = none) : f.CausesFirst := by
  rw [CausesFirst, chain_eq, h]
  exact List.pairwise_singleton _ _

theorem causesFirst_of_prior? {f prior : Failure} (h : f.prior? = some prior)
    (hprior : prior.CausesFirst) (hbegins : prior.messages <+: f.messages) : f.CausesFirst := by
  rw [CausesFirst, chain_eq, h]
  exact List.pairwise_cons.2 ⟨fun g hg => (hprior.begins_of_mem hg).trans hbegins, hprior⟩

theorem CausesFirst.of_prior?_eq {f g : Failure} (hf : f.CausesFirst) (h : g.prior? = f.prior?)
    (hbegins : f.messages <+: g.messages) : g.CausesFirst := by
  cases hprior : f.prior? with
  | none => exact causesFirst_of_prior?_eq_none (h.trans hprior)
  | some prior =>
    rw [CausesFirst, chain_eq, hprior] at hf
    have hbehind := List.pairwise_cons.1 hf
    exact causesFirst_of_prior? (h.trans hprior) hbehind.2
      ((hbehind.1 prior prior.self_mem_chain).trans hbegins)

theorem CausesFirst.stage {f : Failure} (hf : f.CausesFirst) (index : Nat) :
    (Failure.stage index f).CausesFirst :=
  causesFirst_of_prior? rfl hf List.prefix_rfl

theorem CausesFirst.of_stage {index : Nat} {f : Failure}
    (h : (Failure.stage index f).CausesFirst) : f.CausesFirst :=
  (List.pairwise_cons.1 h).2

theorem CausesFirst.withMessage {f : Failure} (hf : f.CausesFirst) (message : String) :
    (f.withMessage message).CausesFirst := by
  fun_induction Failure.withMessage message f with
  | case1 site messages cause => exact hf.of_prior?_eq rfl (List.prefix_append _ _)
  | case2 index inner ih => exact (ih hf.of_stage).stage index

theorem CausesFirst.withCause {f cause : Failure} (hf : f.CausesFirst)
    (hcause : cause.CausesFirst) : (f.withCause (.failure cause)).CausesFirst := by
  fun_induction Failure.withCause (.failure cause) f with
  | case1 site messages cause' =>
    exact causesFirst_of_prior? rfl hcause (List.prefix_append _ _)
  | case2 index inner ih => exact (ih hf.of_stage).stage index

/-- A cause that is no failure of the engine takes the place of the one before it. -/
theorem CausesFirst.withCause_of_failure?_eq_none {f : Failure} {cause : Cause}
    (hf : f.CausesFirst) (h : cause.failure? = none) : (f.withCause cause).CausesFirst := by
  fun_induction Failure.withCause cause f with
  | case1 site messages cause' => exact causesFirst_of_prior?_eq_none h
  | case2 index inner ih => exact (ih hf.of_stage).stage index

theorem CausesFirst.onSite {f : Failure} (hf : f.CausesFirst) (change : Site → Site) :
    (f.onSite change).CausesFirst := by
  cases f with
  | plain site messages cause => exact hf.of_prior?_eq rfl List.prefix_rfl
  | stage index inner => exact hf

/-! ### Building failures -/

/-- A way to build a failure: it is made, and then wrapped and added to any number of times. A cause
that is a failure of the engine is built in the same way. -/
inductive Recipe where
  | extraction (accessor subjectType message : String)
  | transformation (name : String) (messages : List String)
  | invalidData (validator : String) (data : Subject) (messages : List String)
  | invalidType (validator expected : String) (data : Subject) (messages : List String)
  | configuration (message : String)
  | configurationAll (origin : Option String) (messages : List String)
  | notFound (service : String)
  | invalidInstance (service expected : String)
  | stage (index : Nat) (inner : Recipe)
  | withMessage (message : String) (inner : Recipe)
  | withCause (cause inner : Recipe)
  | withFault (text : String) (inner : Recipe)
  | withUnreadable (inner : Recipe)
  | withArguments (args : Arguments) (inner : Recipe)
  | withData (value : Subject) (inner : Recipe)
  | withOrigin (name : String) (inner : Recipe)

namespace Recipe

def build : Recipe → Failure
  | extraction accessor subjectType message => .extraction accessor subjectType message
  | transformation name messages => .transformation name messages
  | invalidData validator data messages => .invalidData validator data messages
  | invalidType validator expected data messages => .invalidType validator expected data messages
  | configuration message => .configuration message
  | configurationAll origin messages => .configurationAll origin messages
  | notFound service => .notFound service
  | invalidInstance service expected => .invalidInstance service expected
  | stage index inner => .stage index inner.build
  | withMessage message inner => inner.build.withMessage message
  | withCause cause inner => inner.build.withCause (.failure cause.build)
  | withFault text inner => inner.build.withCause (.fault text)
  | withUnreadable inner => inner.build.withCause .unreadable
  | withArguments args inner => inner.build.withArguments args
  | withData value inner => inner.build.withData value
  | withOrigin name inner => inner.build.withOrigin name

/-- The messages that are given to a failure while it is built, together with all that the causes
bring along. -/
def given : Recipe → List String
  | extraction _ _ message => [message]
  | transformation _ messages => messages
  | invalidData _ _ messages => messages
  | invalidType _ _ _ messages => messages
  | configuration message => [message]
  | configurationAll _ messages => messages
  | notFound _ => []
  | invalidInstance _ _ => []
  | stage _ inner => inner.given
  | withMessage message inner => inner.given ++ [message]
  | withCause cause inner => cause.build.messages ++ inner.given
  | withFault _ inner => inner.given
  | withUnreadable inner => inner.given
  | withArguments _ inner => inner.given
  | withData _ inner => inner.given
  | withOrigin _ inner => inner.given

theorem causesFirst_build (recipe : Recipe) : recipe.build.CausesFirst := by
  induction recipe with
  | stage index inner ih => exact ih.stage index
  | withMessage message inner ih => exact ih.withMessage message
  | withCause cause inner ihcause ih => exact ih.withCause ihcause
  | withFault text inner ih => exact ih.withCause_of_failure?_eq_none rfl
  | withUnreadable inner ih => exact ih.withCause_of_failure?_eq_none rfl
  | withArguments args inner ih => exact ih.onSite _
  | withData value inner ih => exact ih.onSite _
  | withOrigin name inner ih => exact ih.onSite _
  | _ => exact causesFirst_of_prior?_eq_none rfl

/-- Only the message that names a mismatch of types is not given from outside. -/
theorem given_sublist (recipe : Recipe) : recipe.given.Sublist recipe.build.messages := by
  induction recipe with
  | invalidType validator expected data messages => exact List.sublist_append_left _ _
  | stage index inner ih => exact ih
  | withMessage message inner ih =>
    rw [build, messages_withMessage]
    exact ih.append (List.Sublist.refl _)
  | withCause cause inner ihcause ih =>
    rw [build, messages_withCause]
    exact (List.Sublist.refl _).append ih
  | withFault text inner ih =>
    rw [build, messages_withCause]
    exact ih
  | withUnreadable inner ih =>
    rw [build, messages_withCause]
    exact ih
  | withArguments args inner ih =>
    rw [build, Failure.withArguments, messages_onSite]
    exact ih
  | withData value inner ih =>
    rw [build, Failure.withData, messages_onSite]
    exact ih
  | withOrigin name inner ih =>
    rw [build, Failure.withOrigin, messages_onSite]
    exact ih
  | _ => exact List.Sublist.refl _

/-- Every addition keeps the messages that are there. So in a failure however built, the messages of
each cause begin those of the failure that holds it, and all that was ever given to it, or brought
along by a cause, occurs among its messages, as often and in the order in which it was put there. -/
theorem build_keeps_messages (recipe : Recipe) :
    (∀ message, (recipe.build.withMessage message).messages =
      recipe.build.messages ++ [message]) ∧
    (∀ cause : Failure, (recipe.build.withCause (.failure cause)).messages =
        cause.messages ++ recipe.build.messages ∧
      cause ∈ (recipe.build.withCause (.failure cause)).chain) ∧
    (∀ text, (recipe.build.withCause (.fault text)).messages = recipe.build.messages) ∧
    (∀ index, (Failure.stage index recipe.build).messages = recipe.build.messages) ∧
    (∀ args, (recipe.build.withArguments args).messages = recipe.build.messages) ∧
    (∀ value, (recipe.build.withData value).messages = recipe.build.messages) ∧
    (∀ name, (recipe.build.withOrigin name).messages = recipe.build.messages) ∧
    (recipe.build.chain.Pairwise fun holder cause => cause.messages <+: holder.messages) ∧
    recipe.given.Sublist recipe.build.messages := by
  refine ⟨messages_withMessage _, fun cause => ⟨messages_withCause _ _, mem_chain_withCause _ _⟩,
    fun text => messages_withCause _ _, fun index => rfl, fun args => messages_onSite _ _,
    fun value => messages_onSite _ _, fun name => messages_onSite _ _, recipe.causesFirst_build,
    recipe.given_sublist⟩

end Recipe

end Failure

end Gleaner
