import Gleaner.Proofs.Pipeline.Fold
import Gleaner.Proofs.Text.Trim
import Gleaner.Stage.BuiltIn

/-!
# Trimming and requiring in either order

A text may be trimmed before it is required, or required before it is trimmed. The two stages look
for white space each on its own, but a text is blank before trimming exactly if it is blank
afterwards, so both orders refuse the same texts. What is no text goes through one of the stages
untouched, if at all, and is refused by the other: null is missing where it is required, and nothing
else can be trimmed.
-/

namespace Gleaner

namespace Pipeline

theorem process_pair (first second : Stage) (payload : Subject) (context : Context) :
    process ⟨[first, second]⟩ payload context =
      (first.apply payload context >>= fun value => second.apply value context).mapError
        Failure.unwrapped := by
  rw [process, run_eq_fold]
  simp only [Stage.fold]
  cases first.apply payload context with
  | error failure => rfl
  | ok value =>
    simp only [bind, Except.bind]
    cases second.apply value context with
    | error failure => rfl
    | ok next => rfl

theorem run_mapError_kind (p : Pipeline) (payload : Subject) (context : Context) :
    (p.run payload context).mapError Failure.kind =
      ((p.process payload context).mapError Failure.kind).mapError fun _ => .stage := by
  rw [process]
  cases hrun : p.run payload context with
  | ok value => rfl
  | error failure =>
    rw [run_eq_fold] at hrun
    obtain ⟨n, -, value, inner, -, -, rfl⟩ := Stage.exists_of_fold_error context hrun
    rfl

end Pipeline

namespace BuiltIn

def trimStage : Stage :=
  (Operation.transformer (onString "trim" Text.trim)).bind "trim" []

def requiredStage : Stage :=
  (Operation.validator required).bind "required" []

/-- What comes of a payload that is trimmed and required: the trimmed text, or the kind of the
failure. -/
def trimmedOutcome : Subject → Except FailureKind Subject
  | .string s => if Text.isBlank s then .error .invalidData else .ok (.string (Text.trim s))
  | .null => .error .invalidData
  | _ => .error .invalidType

variable {s : String} {args : Arguments} {context : Context}

theorem required_string_eq_ok_iff :
    required (.string s) args context = .ok () ↔ Text.isBlank s = false := by
  simp only [required]
  split
  · simp [*]
  · simp [*]

theorem requiredStage_string (s : String) (context : Context) :
    requiredStage.apply (.string s) context =
      if Text.isBlank s then
        .error ((Failure.invalidData "required" (.string s) ["value must not be blank"])
          |>.withArguments [])
      else .ok (.string s) := by
  simp only [requiredStage, Operation.bind, required]
  split
  · rfl
  · rfl

theorem trim_then_required (payload : Subject) (context : Context) :
    (Pipeline.process ⟨[trimStage, requiredStage]⟩ payload context).mapError Failure.kind =
      trimmedOutcome payload := by
  rw [Pipeline.process_pair]
  cases payload with
  | string s =>
    have htrim : trimStage.apply (.string s) context = .ok (.string (Text.trim s)) := rfl
    simp only [htrim, bind, Except.bind, requiredStage_string, trimmedOutcome, Text.isBlank_trim]
    split
    · rfl
    · rfl
  | _ => rfl

theorem required_then_trim (payload : Subject) (context : Context) :
    (Pipeline.process ⟨[requiredStage, trimStage]⟩ payload context).mapError Failure.kind =
      trimmedOutcome payload := by
  rw [Pipeline.process_pair]
  cases payload with
  | string s =>
    rw [requiredStage_string, trimmedOutcome]
    split
    · rfl
    · rfl
  | _ => rfl

/-- The order of trimming and requiring makes no difference to what a payload becomes or to the kind
of the failure: a text that holds more than white space is trimmed, a blank one is refused like
null, and the rest is of the wrong type. A text is accepted where it is required exactly if what is
left of it by trimming is. Trimming takes white space away at the ends until there is none, so to
trim again changes nothing. -/
theorem trim_required_commute (r : Resolver) :
    (∃ trimFirst requiredFirst : Pipeline,
      (Catalogue.builtIn r).pipeline [⟨"trim", []⟩, ⟨"required", []⟩] = .ok trimFirst ∧
      (Catalogue.builtIn r).pipeline [⟨"required", []⟩, ⟨"trim", []⟩] = .ok requiredFirst ∧
      ∀ payload context,
        (trimFirst.process payload context).mapError Failure.kind = trimmedOutcome payload ∧
        (requiredFirst.process payload context).mapError Failure.kind = trimmedOutcome payload ∧
        (trimFirst.run payload context).mapError Failure.kind =
          (requiredFirst.run payload context).mapError Failure.kind) ∧
    (∀ s args context,
      (required (.string s) args context = .ok () ↔
        required (.string (Text.trim s)) args context = .ok ()) ∧
      (required (.string s) args context = .ok () ↔ Text.trim s ≠ "")) ∧
    ∀ s : String, Text.trim (Text.trim s) = Text.trim s ∧ Text.IsTrimmed (Text.trim s).toList ∧
      ∃ before after, (∀ c ∈ before ++ after, Text.isSpace c = true) ∧
        s.toList = before ++ (Text.trim s).toList ++ after := by
  refine ⟨⟨⟨[trimStage, requiredStage]⟩, ⟨[requiredStage, trimStage]⟩, rfl, rfl, ?_⟩, ?_, ?_⟩
  · intro payload context
    have htrim := trim_then_required payload context
    have hrequired := required_then_trim payload context
    refine ⟨htrim, hrequired, ?_⟩
    rw [Pipeline.run_mapError_kind, Pipeline.run_mapError_kind, htrim, hrequired]
  · intro s args context
    rw [required_string_eq_ok_iff, required_string_eq_ok_iff, Text.isBlank_trim, ne_eq,
      Text.trim_eq_empty_iff, Bool.not_eq_true]
    exact ⟨Iff.rfl, Iff.rfl⟩
  · intro s
    exact ⟨Text.trim_trim s, Text.isTrimmed_trim s, Text.exists_eq_append_trim s⟩

end BuiltIn

end Gleaner
