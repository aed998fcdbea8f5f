import Gleaner.Proofs.Argument.OneLevel
import Gleaner.Proofs.Failure.Messages
import Gleaner.Proofs.Resolver.Refusal
import Gleaner.Stage.BuiltIn

/-!
# What the built-in stages fail with

A built-in stage fails in one of two ways. An argument that it asks for cannot be expanded: then it
fails as a transformation in its own name, with the failure of the expansion behind it. Or it
refuses the payload or an argument by itself: then the failure is of one of four kinds, names the
stage and has no failure behind it. So what goes wrong while an argument is resolved never leaves
the stage as it is.

The arguments that a stage asks for are written down beside it. A stage that expands an argument and
goes on with the result is described once, by `Surfaces.expand`.
-/

namespace Gleaner

def FailureKind.OfStage : FailureKind → Prop
  | .transformation => True
  | .invalidData => True
  | .invalidType => True
  | .configuration => True
  | _ => False

theorem FailureKind.OfStage.ne {kind other : FailureKind} (h : kind.OfStage)
    (hother : ¬ other.OfStage) : kind ≠ other := by
  rintro rfl
  exact hother h

namespace BuiltIn

variable {r : Resolver} {payload : Subject} {args : Arguments} {context : Context}
  {stage name : String} {failure : Failure} {α β : Type}

/-! ### The arguments that a stage asks for -/

def mainExpansion (r : Resolver) (name : String) (args : Arguments) (payload : Subject)
    (context : Context) : Except Failure Subject :=
  args.getExpanded (.text name) (args.getD (.int 0) (.literal .null)) ⟨r, payload, context⟩

/-- A stage that looks its payload up asks for the table, and for the value that stands in for an
entry only where there is none. -/
def askedByLookUp (r : Resolver) (args : Arguments) (payload : Subject) (context : Context) :
    List (String × Except Failure Subject) :=
  match tableKey? payload with
  | none => []
  | some key =>
    ("values", mainExpansion r "values" args payload context) ::
      match mainExpansion r "values" args payload context with
      | .ok (.map table) =>
        if (Entries.get? key table).isNone ∧ args.contains (.text "default") = true then
          [("default",
            args.getExpanded (.text "default") (.literal .null) ⟨r, payload, context⟩)]
        else []
      | _ => []

/-- The arguments that a built-in stage asks for on a payload, in order, and what each of them
expands to. -/
def asked (r : Resolver) (t : Transformation) (payload : Subject) (context : Context) :
    List (String × Except Failure Subject) :=
  match t.name with
  | "default" =>
    if payload.isNull then [("value", mainExpansion r "value" t.arguments payload context)] else []
  | "map" => askedByLookUp r t.arguments payload context
  | "type" => [("type", mainExpansion r "type" t.arguments payload context)]
  | "pattern" =>
    if payload.asString?.isSome then
      [("pattern", mainExpansion r "pattern" t.arguments payload context)]
    else []
  | _ => []

/-- An argument that cannot be expanded holds an extraction that cannot be resolved, or a key that
resolves to no key. -/
theorem exists_of_expand_error {scope : Arguments.Scope} {value : ArgumentValue}
    (h : value.expand scope = .error failure) :
    failure.kind = .extraction ∨ ∃ e x, scope.extract e = .ok x ∧ (∀ key : Key, x ≠ key.subject) ∧
      failure = Arguments.unusableKey e x := by
  cases value with
  | literal x => cases h
  | extraction e => exact .inl (Resolver.kind_of_resolve h)
  | nested items =>
    obtain ⟨before, ⟨k, v⟩, after, -, -, hfault⟩ := Arguments.expand_eq_error_iff.1 h
    obtain hkey | ⟨-, hvalue⟩ := hfault
    · cases hkey with
      | unresolved h => exact .inl (Resolver.kind_of_resolve h)
      | unusable hx hkey => exact .inr ⟨_, _, hx, hkey, rfl⟩
    · cases hvalue with
      | unresolved h => exact .inl (Resolver.kind_of_resolve h)

theorem kind_of_expand {scope : Arguments.Scope} {value : ArgumentValue}
    (h : value.expand scope = .error failure) :
    failure.kind = .extraction ∨ failure.kind = .configuration := by
  obtain hkind | ⟨e, x, -, -, rfl⟩ := exists_of_expand_error h
  · exact .inl hkind
  · exact .inr rfl

theorem exists_value_of_asked {t : Transformation} {expansion : Except Failure Subject}
    (h : (name, expansion) ∈ asked r t payload context) :
    ∃ value : ArgumentValue, value.expand ⟨r, payload, context⟩ = expansion := by
  have hmain : ∀ {main},
      (name, expansion) = (main, mainExpansion r main t.arguments payload context) →
      ∃ value : ArgumentValue, value.expand ⟨r, payload, context⟩ = expansion := by
    intro main heq
    exact ⟨_, (Prod.mk.inj heq).2.symm⟩
  rw [asked] at h
  split at h
  · split at h
    · exact hmain (List.mem_singleton.1 h)
    · cases h
  · rw [askedByLookUp] at h
    split at h
    · cases h
    · obtain hvalues | hdefault := List.mem_cons.1 h
      · exact hmain hvalues
      · split at hdefault
        · split at hdefault
          · exact ⟨_, (Prod.mk.inj (List.mem_singleton.1 hdefault)).2.symm⟩
          · cases hdefault
        · cases hdefault
  · exact hmain (List.mem_singleton.1 h)
  · split at h
    · exact hmain (List.mem_singleton.1 h)
    · cases h
  · cases h

/-! ### Two ways to fail -/

/-- A failure that a stage has by itself. -/
structure Refusal (stage : String) (failure : Failure) : Prop where
  kind : failure.kind.OfStage
  origin : failure.origin? = some stage
  prior : failure.prior? = none

/-- A result that comes about while some arguments are asked for: it is the failure of the first
that cannot be expanded, and else a value or a refusal. -/
structure Surfaces (stage : String) (args : Arguments)
    (asked : List (String × Except Failure Subject)) (result : Except Failure α) : Prop where
  of_asked : ∀ name cause, (name, .error cause) ∈ asked →
    result = .error (expansionFailure stage name args cause)
  of_error : ∀ failure, result = .error failure →
    (∃ name cause, (name, .error cause) ∈ asked ∧
      failure = expansionFailure stage name args cause) ∨ Refusal stage failure

namespace Surfaces

theorem ok (value : α) : Surfaces stage args [] (.ok value) :=
  ⟨nofun, nofun⟩

theorem refuse (h : Refusal stage failure) :
    Surfaces stage args [] (.error failure : Except Failure α) := by
  refine ⟨nofun, ?_⟩
  rintro _ ⟨⟩
  exact .inr h

theorem map {asked : List (String × Except Failure Subject)} {result : Except Failure α}
    (h : Surfaces stage args asked result) (f : α → β) :
    Surfaces stage args asked (result.map f) := by
  constructor
  · intro name cause hasked
    rw [h.of_asked name cause hasked]
    rfl
  · intro failure hfailure
    exact h.of_error failure (Traversal.map_eq_error_iff.1 hfailure)

/-- A stage that expands an argument asks for it, and then for what it asks for with the result. -/
theorem expand {expansion : Except Failure Subject} {next : Subject → Except Failure α}
    {later : List (String × Except Failure Subject)}
    (hnext : ∀ x, expansion = .ok x → Surfaces stage args later (next x))
    (hlater : ∀ cause, expansion = .error cause → later = []) :
    Surfaces stage args ((name, expansion) :: later)
      (expansion.mapError (expansionFailure stage name args) >>= next) := by
  cases expansion with
  | error cause =>
    rw [hlater cause rfl]
    constructor
    · intro name cause hasked
      obtain ⟨rfl, ⟨⟩⟩ := Prod.mk.inj (List.mem_singleton.1 hasked)
      rfl
    · rintro _ ⟨⟩
      exact .inl ⟨name, cause, List.mem_cons_self, rfl⟩
  | ok x =>
    have hx := hnext x rfl
    constructor
    · intro name cause hasked
      obtain hhead | hlater := List.mem_cons.1 hasked
      · cases hhead
      · exact hx.of_asked name cause hlater
    · intro failure hfailure
      obtain ⟨name, cause, hlater, hcause⟩ | hrefusal := hx.of_error failure hfailure
      · exact .inl ⟨name, cause, List.mem_cons_of_mem _ hlater, hcause⟩
      · exact .inr hrefusal

theorem expand_last (expansion : Except Failure Subject) :
    Surfaces stage args [(name, expansion)]
      (expansion.mapError (expansionFailure stage name args)) := by
  have hlast : Surfaces stage args [(name, expansion)]
      (expansion.mapError (expansionFailure stage name args) >>= .ok) :=
    expand (fun x _ => .ok x) fun _ _ => rfl
  cases expansion <;> exact hlast

end Surfaces

/-! ### The stages -/

theorem surfaces_onString (change : String → String) (context : Context) :
    Surfaces stage args [] (onString stage change payload args context) := by
  cases payload with
  | null => exact .ok _
  | string s => exact .ok _
  | _ => exact .refuse ⟨trivial, rfl, rfl⟩

theorem surfaces_fillNull :
    Surfaces "default" args (asked r ⟨"default", args⟩ payload context)
      (fillNull r payload args context) := by
  cases payload with
  | null => exact .expand_last _
  | _ => exact .ok _

theorem surfaces_lookUp :
    Surfaces "map" args (askedByLookUp r args payload context)
      (lookUp r payload args context) := by
  rw [askedByLookUp, lookUp]
  cases tableKey? payload with
  | none => exact .refuse ⟨trivial, rfl, rfl⟩
  | some key =>
    refine .expand (fun x hx => ?_) fun cause hcause => ?_
    · rw [hx]
      cases x with
      | map table =>
        simp only
        cases hentry : Entries.get? key table with
        | some value => exact .ok value
        | none =>
          cases hdefault : args.contains (.text "default") with
          | true => exact .expand_last _
          | false => exact .refuse ⟨trivial, rfl, rfl⟩
      | _ => exact .refuse ⟨trivial, rfl, rfl⟩
    · rw [hcause]

theorem surfaces_required : Surfaces "required" args [] (required payload args context) := by
  cases payload with
  | null => exact .refuse ⟨trivial, rfl, rfl⟩
  | string s =>
    rw [required]
    split
    · exact .refuse ⟨trivial, rfl, rfl⟩
    · exact .ok ()
  | _ => exact .ok ()

theorem surfaces_typeIs :
    Surfaces "type" args (asked r ⟨"type", args⟩ payload context)
      (typeIs r payload args context) := by
  refine .expand (fun x hx => ?_) fun _ _ => rfl
  cases x with
  | string expected =>
    simp only
    split
    · exact .ok ()
    · exact .refuse ⟨trivial, rfl, rfl⟩
  | _ => exact .refuse ⟨trivial, rfl, rfl⟩

theorem surfaces_matchesPattern :
    Surfaces "pattern" args (asked r ⟨"pattern", args⟩ payload context)
      (matchesPattern r payload args context) := by
  cases payload with
  | string text =>
    refine .expand (fun x hx => ?_) fun _ _ => rfl
    cases x with
    | string source =>
      simp only
      split
      · exact .refuse ⟨trivial, rfl, rfl⟩
      · split
        · exact .ok ()
        · exact .refuse ⟨trivial, rfl, rfl⟩
    | _ => exact .refuse ⟨trivial, rfl, rfl⟩
  | _ => exact .refuse ⟨trivial, rfl, rfl⟩

/-- Every built-in stage fails as an argument that it asks for, or by itself. -/
theorem surfaces_apply {t : Transformation} {s : Stage} (h : (Catalogue.builtIn r).stage t = .ok s)
    (payload : Subject) (context : Context) :
    Surfaces t.name t.arguments (asked r t payload context) (s.apply payload context) := by
  obtain ⟨name, args⟩ := t
  have hoperation : ∃ operation, (name, operation) ∈ operations r ∧
      s = operation.bind name args := by
    rw [Catalogue.stage] at h
    split at h
    · rename_i operation hget
      exact ⟨operation, Entries.mem_of_get?_eq_some hget, (Except.ok.inj h).symm⟩
    · cases h
  obtain ⟨operation, hmem, rfl⟩ := hoperation
  simp only [operations, List.mem_cons, Prod.mk.injEq, List.not_mem_nil, or_false] at hmem
  obtain ⟨rfl, rfl⟩ | ⟨rfl, rfl⟩ | ⟨rfl, rfl⟩ | ⟨rfl, rfl⟩ | ⟨rfl, rfl⟩ | ⟨rfl, rfl⟩ | ⟨rfl, rfl⟩ |
    ⟨rfl, rfl⟩ | ⟨rfl, rfl⟩ := hmem
  · exact surfaces_onString Text.toUpper context
  · exact surfaces_onString Text.toLower context
  · exact surfaces_onString Text.trim context
  · exact surfaces_fillNull
  · exact surfaces_lookUp
  · cases payload <;> exact .ok _
  · exact surfaces_required.map _
  · exact surfaces_typeIs.map _
  · exact surfaces_matchesPattern.map _

end BuiltIn

end Gleaner
