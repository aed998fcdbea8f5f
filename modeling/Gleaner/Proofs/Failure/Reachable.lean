import Gleaner.Proofs.Failure.Wrapping

/-!
# The causes that stay reachable

A failure has one place for a cause, behind all its wrappers, and a cause that is set there takes
the place of the one before it. So of the causes that were set while a failure was built, the last
one is found by following causes, with all that stands behind it. The others are found only if they
stand behind the last one too. Their messages are kept; they themselves are not.

Wrapping, on the other hand, loses nothing. Each wrapper has the failure within for its cause, and
the way goes on from there.
-/

namespace Gleaner

namespace Failure

/-! ### Following causes -/

/-- A cause is found by going from a failure to its cause, and on from there as long as the cause is
a failure of the engine. -/
inductive Reaches : Failure → Cause → Prop
  | direct {f : Failure} {cause : Cause} (h : f.cause? = some cause) : Reaches f cause
  | through {f prior : Failure} {cause : Cause} (h : f.cause? = some (.failure prior))
      (hprior : Reaches prior cause) : Reaches f cause

/-- The failures within the wrappers of a failure, the outermost first. -/
def wrapped : Failure → List Failure
  | plain _ _ _ => []
  | stage _ inner => inner :: inner.wrapped

end Failure

def Cause.Leads (cause behind : Cause) : Prop :=
  behind = cause ∨ ∃ f, cause = .failure f ∧ f.Reaches behind

namespace Failure

variable {f : Failure} {cause behind : Cause}

theorem reaches_iff : f.Reaches behind ↔ ∃ cause, f.cause? = some cause ∧ cause.Leads behind := by
  constructor
  · intro h
    cases h with
    | direct h => exact ⟨behind, h, .inl rfl⟩
    | through h hprior => exact ⟨_, h, .inr ⟨_, rfl, hprior⟩⟩
  · rintro ⟨cause, h, rfl | ⟨prior, rfl, hprior⟩⟩
    · exact .direct h
    · exact .through h hprior

theorem reaches_stage_iff {index : Nat} {inner : Failure} :
    (stage index inner).Reaches behind ↔ behind = .failure inner ∨ inner.Reaches behind := by
  rw [reaches_iff]
  constructor
  · rintro ⟨_, ⟨⟩, rfl | ⟨_, ⟨⟩, hinner⟩⟩
    · exact .inl rfl
    · exact .inr hinner
  · rintro (rfl | hinner)
    · exact ⟨_, rfl, .inl rfl⟩
    · exact ⟨_, rfl, .inr ⟨_, rfl, hinner⟩⟩

/-- The way goes through the wrappers first, and then through the cause of the failure within. -/
theorem reaches_iff_unwrapped : f.Reaches behind ↔
    (∃ inner ∈ f.wrapped, behind = .failure inner) ∨
      ∃ cause, f.unwrapped.cause? = some cause ∧ cause.Leads behind := by
  fun_induction Failure.unwrapped f with
  | case1 site messages cause =>
    rw [reaches_iff, wrapped]
    simp
  | case2 index inner ih =>
    rw [reaches_stage_iff, ih, wrapped]
    simp only [List.mem_cons, exists_eq_or_imp, or_assoc]

/-! ### What is set and what is kept -/

theorem cause?_unwrapped_withCause (f : Failure) (cause : Cause) :
    (f.withCause cause).unwrapped.cause? = some cause := by
  fun_induction withCause cause f with
  | case1 site messages cause' => rfl
  | case2 index inner ih => exact ih

theorem cause?_unwrapped_withMessage (f : Failure) (message : String) :
    (f.withMessage message).unwrapped.cause? = f.unwrapped.cause? := by
  fun_induction withMessage message f with
  | case1 site messages cause => rfl
  | case2 index inner ih => exact ih

theorem cause?_unwrapped_onSite (f : Failure) (change : Site → Site) :
    (f.onSite change).unwrapped.cause? = f.unwrapped.cause? := by
  cases f <;> rfl

namespace Recipe

/-- The causes that are set while a failure is built, the last one first. -/
def attached : Recipe → List Cause
  | stage _ inner => inner.attached
  | withMessage _ inner => inner.attached
  | withCause cause inner => .failure cause.build :: inner.attached
  | withFault text inner => .fault text :: inner.attached
  | withUnreadable inner => .unreadable :: inner.attached
  | withArguments _ inner => inner.attached
  | withData _ inner => inner.attached
  | withOrigin _ inner => inner.attached
  | _ => []

theorem cause?_unwrapped_build (recipe : Recipe) :
    recipe.build.unwrapped.cause? = recipe.attached.head? := by
  induction recipe with
  | stage index inner ih => exact ih
  | withMessage message inner ih => exact (cause?_unwrapped_withMessage _ _).trans ih
  | withCause cause inner _ _ => exact cause?_unwrapped_withCause _ _
  | withFault text inner _ => exact cause?_unwrapped_withCause _ _
  | withUnreadable inner _ => exact cause?_unwrapped_withCause _ _
  | withArguments args inner ih => exact (cause?_unwrapped_onSite _ _).trans ih
  | withData value inner ih => exact (cause?_unwrapped_onSite _ _).trans ih
  | withOrigin name inner ih => exact (cause?_unwrapped_onSite _ _).trans ih
  | _ => rfl

/-- What is reached from a failure however built: the failures within its wrappers, the cause that
was set last, and what stands behind that. So the last cause is always reached, and a cause that was
set earlier only if it is among these, as it is where only one was set. -/
theorem reaches_build_iff_latest (recipe : Recipe) :
    (∀ cause, recipe.build.Reaches cause ↔
      (∃ inner ∈ recipe.build.wrapped, cause = .failure inner) ∨
        ∃ latest, recipe.attached.head? = some latest ∧ latest.Leads cause) ∧
    (∀ latest, recipe.attached.head? = some latest → recipe.build.Reaches latest) ∧
    (recipe.attached.length ≤ 1 → ∀ cause ∈ recipe.attached, recipe.build.Reaches cause) := by
  have hreaches : ∀ cause, recipe.build.Reaches cause ↔
      (∃ inner ∈ recipe.build.wrapped, cause = .failure inner) ∨
        ∃ latest, recipe.attached.head? = some latest ∧ latest.Leads cause := by
    intro cause
    rw [reaches_iff_unwrapped, cause?_unwrapped_build]
  have hlatest : ∀ latest, recipe.attached.head? = some latest → recipe.build.Reaches latest :=
    fun latest h => (hreaches latest).2 (.inr ⟨latest, h, .inl rfl⟩)
  refine ⟨hreaches, hlatest, fun honce cause hcause => hlatest cause ?_⟩
  match hattached : recipe.attached with
  | [] =>
    rw [hattached] at hcause
    cases hcause
  | [only] =>
    rw [hattached, List.mem_singleton] at hcause
    rw [hcause]
    rfl
  | first :: second :: rest =>
    rw [hattached] at honce
    simp at honce

theorem reaches_build_iff_latest_wrapped :
    let cause : Recipe := .withFault "offline" (.configuration "inner")
    let recipe : Recipe := .stage 1 (.withCause cause (.stage 0 (.notFound "db")))
    recipe.attached.length ≤ 1 ∧ recipe.build.Reaches (.failure cause.build) ∧
      recipe.build.Reaches (.fault "offline") := by
  intro cause recipe
  obtain ⟨hreaches, -, honce⟩ := reaches_build_iff_latest recipe
  refine ⟨Nat.le_refl 1, honce (Nat.le_refl 1) _ List.mem_cons_self, ?_⟩
  exact (hreaches _).2 (.inr ⟨_, rfl, .inr ⟨_, rfl, .direct rfl⟩⟩)

/-- A second cause takes the place of the first, which is not reached any more. -/
theorem earlier_cause_unreachable :
    let recipe : Recipe :=
      .withCause (.configuration "gave up") (.withFault "offline" (.notFound "db"))
    Cause.fault "offline" ∈ recipe.attached ∧ ¬ recipe.build.Reaches (.fault "offline") ∧
      ¬ ∀ recipe : Recipe, ∀ cause ∈ recipe.attached, recipe.build.Reaches cause := by
  intro recipe
  have hattached : Cause.fault "offline" ∈ recipe.attached :=
    List.mem_cons_of_mem _ List.mem_cons_self
  have hlost : ¬ recipe.build.Reaches (.fault "offline") := by
    intro h
    obtain ⟨cause, hcause, heq | ⟨f, rfl, hbehind⟩⟩ := reaches_iff.1 h
    · rw [← heq] at hcause
      cases hcause
    · obtain rfl := Cause.failure.inj (Option.some.inj hcause)
      obtain ⟨_, hnone, -⟩ := reaches_iff.1 hbehind
      cases hnone
  exact ⟨hattached, hlost, fun hall => hlost (hall recipe _ hattached)⟩

end Recipe

end Failure

end Gleaner
