import Gleaner.Output.Writer
import Gleaner.Proofs.Json.Line

/-!
# What a writer leaves

A writer is called any number of times, and what it leaves is what the calls write, one behind
another. In a format for machines only data, subjects and problems write, each of them its document
in that format, and nothing of the writer but the format matters. So what is left can be read by a
program whatever else is said on the way. In the format for people a quiet writer leaves out notes,
but never a warning.

A document that has no line break at its end gets one. The compact and the indented text never have
one and YAML always does, so where the writer ends a line without a look at the text, the line was
open.
-/

namespace Gleaner

open Text

/-! ### YAML ends its last line -/

namespace Yaml

theorem hang_ne_nil (mark : String) (lines : List String) : hang mark lines ≠ [] := by
  cases lines <;> exact List.cons_ne_nil _ _

theorem textLines_ne_nil (text : String) : textLines text ≠ [] := by
  rw [textLines]
  split <;> exact List.cons_ne_nil _ _

theorem itemLines_ne_nil {items : List Json} (h : items ≠ []) : itemLines items ≠ [] := by
  obtain ⟨v, rest, rfl⟩ := List.exists_cons_of_ne_nil h
  rw [itemLines]
  exact List.append_ne_nil_of_left_ne_nil (hang_ne_nil _ _) _

theorem memberLines_ne_nil {members : List (String × Json)} (h : members ≠ []) :
    memberLines members ≠ [] := by
  obtain ⟨⟨k, v⟩, rest, rfl⟩ := List.exists_cons_of_ne_nil h
  unfold memberLines
  refine List.append_ne_nil_of_left_ne_nil ?_ _
  split
  · split <;> exact List.cons_ne_nil _ _
  · exact List.append_ne_nil_of_left_ne_nil (hang_ne_nil _ _) _

theorem nodeLines_ne_nil (v : Json) : nodeLines v ≠ [] := by
  fun_cases nodeLines v with
  | case2 items hne => exact itemLines_ne_nil hne
  | case4 members hne => exact memberLines_ne_nil hne
  | case5 text => exact textLines_ne_nil text
  | _ => exact List.cons_ne_nil _ _

theorem endsLine_join {lines : List String} (h : lines ≠ []) :
    EndsLine (String.join (lines.map (· ++ "\n"))) := by
  rw [← List.dropLast_concat_getLast h, List.map_append, String.join_append, List.map_singleton,
    String.join_cons, String.join_nil, String.append_empty, ← String.append_assoc,
    endsLine_append (by decide)]
  decide

theorem endsLine_write (v : Json) : EndsLine (write v) := by
  unfold write
  apply endsLine_join
  split
  · exact List.cons_ne_nil _ _
  · exact nodeLines_ne_nil _

end Yaml

/-! ### Documents with their line break -/

namespace OutputFormat

/-- Of the texts of documents only those in YAML have a line break at their end. -/
theorem endsLine_formatDocument (format : OutputFormat) (v : Json) :
    EndsLine (format.formatDocument v) ↔ format = .yaml := by
  cases format with
  | json => exact iff_of_false (Json.isLine_compact v).not_endsLine (by decide)
  | yaml => exact iff_of_true (Yaml.endsLine_write v) rfl
  | jsonPretty => exact iff_of_false (Json.not_endsLine_pretty v) (by decide)
  | human => exact iff_of_false (Json.not_endsLine_pretty v) (by decide)

theorem formatSubject_of_machine {format : OutputFormat} (h : format ≠ .human) (s : Subject) :
    format.formatSubject s = format.formatDocument s.toJson := by
  cases format with
  | human => exact absurd rfl h
  | _ => rfl

end OutputFormat

namespace Output

inductive Call where
  | info (message : String)
  | success (message : String)
  | warning (message : String)
  | heading (title : String)
  | table (header : List String) (rows : List (List String))
  | data (v : Json)
  | subject (s : Subject)
  | problem (p : Problem)

namespace Call

def document? : Call → Option Json
  | data v => some v
  | subject s => some s.toJson
  | problem p => some p.toJson
  | _ => none

/-- Whether a call is a note for people, which a quiet writer leaves out. -/
def isNote : Call → Bool
  | info _ => true
  | success _ => true
  | heading _ => true
  | table _ _ => true
  | _ => false

end Call

/-- A text with a line break at its end, whether it had one or not. -/
def ended (text : String) : String :=
  if EndsLine text then text else Writer.line text

namespace Writer

variable {w : Writer}

/-- What a call writes. -/
def perform (w : Writer) : Call → String
  | .info message => w.info message
  | .success message => w.success message
  | .warning message => w.warning message
  | .heading title => w.heading title
  | .table header rows => w.table header rows
  | .data v => w.data v
  | .subject s => w.subject s
  | .problem p => w.problem p

def resume (w : Writer) (written : String) (calls : List Call) : String :=
  calls.foldl (fun written call => written ++ w.perform call) written

/-- What a writer leaves after some calls. -/
def transcript (w : Writer) (calls : List Call) : String :=
  w.resume "" calls

/-! ### One call -/

theorem emit_formatDocument (w : Writer) (v : Json) :
    w.emit (w.format.formatDocument v) = ended (w.format.formatDocument v) := by
  have hpretty : ended v.pretty = line v.pretty := if_neg (Json.not_endsLine_pretty v)
  rw [emit]
  cases w.format with
  | json => rfl
  | yaml => rfl
  | jsonPretty => exact hpretty.symm
  | human => exact hpretty.symm

theorem subject_of_machine (h : w.format ≠ .human) (s : Subject) :
    w.subject s = ended (w.format.formatDocument s.toJson) := by
  rw [subject, OutputFormat.formatSubject_of_machine h, emit_formatDocument]

theorem problem_of_machine (h : w.format ≠ .human) (p : Problem) :
    w.problem p = ended (w.format.formatDocument p.toJson) := by
  rw [← emit_formatDocument, problem]
  split
  case h_1 hhuman => exact absurd hhuman h
  case h_2 => rfl

theorem remark_of_machine (h : w.format ≠ .human) (text : String) : w.remark text = "" := by
  rw [remark, decide_eq_true h, Bool.or_true, if_pos rfl]

theorem perform_of_machine (h : w.format ≠ .human) (call : Call) :
    w.perform call =
      (call.document?.map fun v => ended (w.format.formatDocument v)).getD "" := by
  cases call with
  | info message => exact remark_of_machine h _
  | success message => exact remark_of_machine h _
  | warning message => exact if_pos h
  | heading title => exact remark_of_machine h _
  | table header rows => exact remark_of_machine h _
  | data v => exact w.emit_formatDocument v
  | subject s => exact subject_of_machine h s
  | problem p => exact problem_of_machine h p

theorem remark_of_quiet (h : w.quiet = true) (text : String) : w.remark text = "" := by
  rw [remark, h, Bool.true_or, if_pos rfl]

theorem line_ne_empty (text : String) : line text ≠ "" :=
  fun h => absurd (String.append_eq_empty_iff.1 h).2 (by decide)

theorem emit_of_human (h : w.format = .human) (text : String) : w.emit text = line text := by
  rw [emit, h]

/-- For people a quiet writer leaves out the notes, and each other call writes something. -/
theorem perform_eq_empty_iff (hformat : w.format = .human) (hquiet : w.quiet = true)
    (call : Call) : w.perform call = "" ↔ call.isNote = true := by
  have hnote (text : String) : w.remark text = "" ↔ true = true :=
    iff_of_true (remark_of_quiet hquiet text) rfl
  have hline (text : String) : w.emit text = "" ↔ false = true := by
    rw [emit_of_human hformat]
    exact iff_of_false (line_ne_empty text) Bool.false_ne_true
  cases call with
  | info message => exact hnote _
  | success message => exact hnote _
  | warning message =>
    rw [perform, warning, if_neg (not_not_intro hformat)]
    exact iff_of_false (line_ne_empty _) Bool.false_ne_true
  | heading title => exact hnote _
  | table header rows => exact hnote _
  | data v => exact hline _
  | subject s => exact hline _
  | problem p => exact hline _

/-! ### A run of calls -/

theorem resume_eq (w : Writer) (written : String) (calls : List Call) :
    w.resume written calls = written ++ String.join (calls.map w.perform) := by
  induction calls generalizing written with
  | nil => exact (String.append_empty).symm
  | cons call rest ih =>
    rw [List.map_cons, String.join_cons, ← String.append_assoc]
    exact ih _

theorem transcript_eq (w : Writer) (calls : List Call) :
    w.transcript calls = String.join (calls.map w.perform) := by
  rw [transcript, resume_eq, String.empty_append]

theorem transcript_cons (w : Writer) (call : Call) (rest : List Call) :
    w.transcript (call :: rest) = w.perform call ++ w.transcript rest := by
  rw [transcript_eq, transcript_eq, List.map_cons, String.join_cons]

theorem transcript_of_machine (h : w.format ≠ .human) (calls : List Call) :
    w.transcript calls = String.join ((calls.filterMap Call.document?).map fun v =>
      ended (w.format.formatDocument v)) := by
  induction calls with
  | nil => rfl
  | cons call rest ih =>
    rw [transcript_cons, perform_of_machine h, ih, List.filterMap_cons]
    cases call.document? with
    | none => exact String.empty_append
    | some v => exact String.join_cons.symm

theorem transcript_filter {keeps : Call → Bool}
    (h : ∀ call, keeps call = false → w.perform call = "") (calls : List Call) :
    w.transcript (calls.filter keeps) = w.transcript calls := by
  induction calls with
  | nil => rfl
  | cons call rest ih =>
    rw [transcript_cons, ← ih]
    cases hkeeps : keeps call with
    | true => rw [List.filter_cons_of_pos hkeeps, transcript_cons]
    | false =>
      rw [List.filter_cons_of_neg (Bool.eq_false_iff.1 hkeeps), h call hkeeps, String.empty_append]

/-- In a format for machines a writer leaves the documents of its calls for data, subjects and
problems, in their order and each with a line break at its end, which YAML has and the other formats
are given. So no other setting of the writer matters. For people a quiet writer leaves what it would
leave without the calls for notes, headings and tables, which are those that write nothing. -/
theorem transcript_pure (w : Writer) (calls : List Call) :
    (w.format ≠ .human →
      w.transcript calls = String.join ((calls.filterMap Call.document?).map fun v =>
        ended (w.format.formatDocument v)) ∧
      (∀ v, EndsLine (w.format.formatDocument v) ↔ w.format = .yaml) ∧
      ∀ w' : Writer, w'.format = w.format → w'.transcript calls = w.transcript calls) ∧
    (w.format = .human → w.quiet = true →
      (∀ call, w.perform call = "" ↔ call.isNote = true) ∧
      w.transcript calls = w.transcript (calls.filter fun call => !call.isNote)) := by
  refine ⟨fun hmachine => ⟨transcript_of_machine hmachine calls,
    w.format.endsLine_formatDocument, fun w' hformat => ?_⟩, fun hformat hquiet => ?_⟩
  · rw [transcript_of_machine (hformat ▸ hmachine), transcript_of_machine hmachine, hformat]
  · have hnotes := perform_eq_empty_iff hformat hquiet
    refine ⟨hnotes, (transcript_filter (fun call hleft => ?_) calls).symm⟩
    rw [Bool.not_eq_false'] at hleft
    exact (hnotes call).2 hleft

theorem transcript_pure_script :
    let calls : List Call := [.info "start", .data (.object [("ok", .bool true)]),
      .warning "old", .table ["k"] [["v"]], .subject (.string "a\nb")]
    let script : Writer := { format := .json, color := true, quiet := false, verbosity := 3 }
    let quiet : Writer := { format := .human, color := false, quiet := true }
    script.format ≠ .human ∧ quiet.format = .human ∧ quiet.quiet = true ∧
      script.transcript calls = "\x7b\"ok\":true\x7d\n\"a\\nb\"\n" ∧
      Writer.transcript { format := .json, color := false, quiet := true } calls =
        script.transcript calls ∧
      quiet.transcript calls = quiet.transcript
        [.data (.object [("ok", .bool true)]), .warning "old", .subject (.string "a\nb")] := by
  intro calls script quiet
  have hscript : script.format ≠ .human := by decide
  obtain ⟨hleft, -, hsame⟩ := (transcript_pure script calls).1 hscript
  obtain ⟨-, hquiet⟩ := (transcript_pure quiet calls).2 rfl rfl
  exact ⟨hscript, rfl, rfl, hleft.trans (by decide +kernel), hsame _ rfl, hquiet⟩

end Writer

end Output

end Gleaner
