import Gleaner.Output.Writer
import Gleaner.Proofs.Entries
import Gleaner.Proofs.Failure.Wrapping

/-!
# What is shown of a failure

A failure is shown to people as lines of text and to machines as a document. The document is the
report of the failure within all wrappers, with the index of the outermost one. The text is made of
the report of the failure as it is, and only the heading looks behind the wrappers for the kind.
Origin and messages reach through a wrapper, so they are the same in both. Recorded data does not:
the text for a wrapped failure has no line for the data that the document shows.
-/

namespace Gleaner

/-! ### Data behind wrappers -/

namespace Failure

theorem data?_eq (f : Failure) :
    f.data? = if f.stageIndex? = none then f.unwrapped.data? else none := by
  cases f with
  | plain site messages cause => rfl
  | stage index inner => rfl

end Failure

/-! ### Reports as documents and as text -/

namespace Report

def heading (r : Report) : String :=
  let origin := match r.origin with
    | some origin => " in '" ++ origin ++ "'"
    | none => ""
  let index := match r.stageIndex with
    | some index => " at stage " ++ Numeral.ofNat index
    | none => ""
  r.kind.title ++ origin ++ index

/-- The text that states all facts of a report but the arguments, one on a line. -/
def text (r : Report) : String :=
  String.intercalate "\n" (("Error: " ++ r.heading) ::
    r.messages.map (fun message => "  - " ++ message) ++
    r.data.toList.map fun v => "  data: " ++ v.compact)

theorem text_without_data_iff (r : Report) :
    { r with data := none }.text = r.text ↔ r.data = none := by
  constructor
  · intro htext
    cases hdata : r.data with
    | none => rfl
    | some v =>
      have hlines : r.text = { r with data := none }.text ++ "\n" ++ ("  data: " ++ v.compact) := by
        rw [text, text, hdata, Option.toList_some, List.map_singleton,
          String.intercalate_append_of_ne_nil (List.cons_ne_nil _ _) (List.cons_ne_nil _ _),
          String.intercalate_singleton, Option.toList_none, List.map_nil, List.append_nil]
        rfl
      have hlength := congrArg String.length (htext.trans hlines)
      simp only [String.length_append] at hlength
      have hbreak : "\n".length = 1 := rfl
      omega
  · intro hdata
    rw [← hdata]

theorem get?_member? (key name : String) (value : Option Json) :
    Entries.get? key (member? name value) = if name = key then value else none := by
  cases value with
  | none => rw [ite_self]; rfl
  | some v => rfl

theorem exists_members (r : Report) : ∃ members, r.toJson = .object members ∧
    Entries.get? "kind" members = some (.string r.kind.name) ∧
    Entries.get? "origin" members = r.origin.map .string ∧
    Entries.get? "stage_index" members = r.stageIndex.map (fun index => .int index) ∧
    Entries.get? "messages" members = some (.texts r.messages) ∧
    Entries.get? "data" members = r.data := by
  refine ⟨_, rfl, ?_⟩
  simp only [Entries.get?_append, get?_member?, Entries.get?]
  cases r.stageIndex <;> simp

end Report

/-! ### Problems -/

namespace Problem

theorem heading_eq (f : Failure) : heading f = f.stageReport.heading := by
  have horigin : f.stageReport.origin = f.origin? := f.origin?_unwrapped
  rw [heading, Report.heading, horigin]
  rfl

theorem format_eq_text (f : Failure) : (engine f).format false =
    { f.stageReport with
      data := if f.stageIndex? = none then f.stageReport.data else none }.text := by
  have hmessages : f.stageReport.messages = f.report.messages := f.messages_unwrapped
  have hdata : f.report.data = if f.stageIndex? = none then f.stageReport.data else none := by
    rw [Failure.report, Failure.data?_eq]
    split <;> rfl
  rw [format, heading_eq, Report.text, hmessages, hdata]
  rfl

/-- What machines get is the stage report, with a member for each fact that there is. What people
get is its text, but for the data of a wrapped failure. So the two state the same facts exactly if
the failure is not wrapped or has no data. -/
theorem format_states_report (f : Failure) :
    (∀ w : Output.Writer, w.problem (.engine f) =
      w.emit (if w.format = .human then (engine f).format w.color
        else w.format.formatDocument f.stageReport.toJson)) ∧
    (∃ members, f.stageReport.toJson = .object members ∧
      Entries.get? "kind" members = some (.string f.unwrapped.kind.name) ∧
      Entries.get? "origin" members = f.origin?.map .string ∧
      Entries.get? "stage_index" members = f.stageIndex?.map (fun index => .int index) ∧
      Entries.get? "messages" members = some (.texts f.messages) ∧
      Entries.get? "data" members = f.unwrapped.data?.map Subject.toJson) ∧
    (engine f).format false =
      { f.stageReport with
        data := if f.stageIndex? = none then f.stageReport.data else none }.text ∧
    ((engine f).format false = f.stageReport.text ↔
      f.stageIndex? = none ∨ f.stageReport.data = none) := by
  refine ⟨fun w => ?_, ?_, format_eq_text f, ?_⟩
  · obtain ⟨format, color, quiet⟩ := w
    cases format <;> rfl
  · obtain ⟨members, hmembers, hkind, horigin, hindex, hmessages, hdata⟩ :=
      f.stageReport.exists_members
    refine ⟨members, hmembers, hkind, ?_, hindex, ?_, hdata⟩
    · rw [horigin, ← f.origin?_unwrapped]
      rfl
    · rw [hmessages, ← f.messages_unwrapped]
      rfl
  · rw [format_eq_text]
    by_cases hindex : f.stageIndex? = none
    · rw [if_pos hindex]
      exact iff_of_true rfl (.inl hindex)
    · rw [if_neg hindex, Report.text_without_data_iff, or_iff_right hindex]

/-- The data of a refusal in a stage is in the document, but not in the text. -/
theorem format_hides_wrapped_data :
    let f := (Failure.invalidType "type" "string" (.int 5) []).stage 1
    f.stageReport.data = some (.int 5) ∧
      (engine f).format false =
        "Error: InvalidType in 'type' at stage 1\n  - expected string, received int" ∧
      f.stageReport.text =
        "Error: InvalidType in 'type' at stage 1\n  - expected string, received int\n  data: 5" ∧
      (engine f).format false ≠ f.stageReport.text := by
  intro f
  have hformat : (engine f).format false =
      "Error: InvalidType in 'type' at stage 1\n  - expected string, received int" := by
    decide +kernel
  have htext : f.stageReport.text =
      "Error: InvalidType in 'type' at stage 1\n  - expected string, received int\n  data: 5" := by
    decide +kernel
  refine ⟨rfl, hformat, htext, ?_⟩
  rw [hformat, htext]
  decide

end Problem

end Gleaner
