import Gleaner.Proofs.Extractor.Agreement
import Gleaner.Proofs.Json.Document
import Mathlib.Data.List.Nodup

/-!
# A mapping is extracted field by field

A mapping adds nothing to the extraction of its fields. If all of them succeed, the result holds
what each of them yields, under its name and in the order of the mapping. If not, the first field
that fails decides, and its failure is passed on with one more message. Since the extractor takes
all wrappers off, that message is put right behind the failure's own and leaves everything else as
it was.

The fields of a mapping have distinct names. A mapping that is read gets them from the members of an
object, of which no two have one name.
-/

namespace Gleaner

namespace Mapping

def Distinct (mapping : Mapping) : Prop :=
  (mapping.map Prod.fst).Nodup

theorem names_of_read {members : List (String × Json)} {mapping : Mapping}
    (h : read (.object members) = .ok mapping) :
    mapping.map Prod.fst = members.map Prod.fst := by
  rw [read, Traversal.mapM_eq_ok_iff] at h
  induction h with
  | nil => rfl
  | cons hfield _ ih =>
    obtain ⟨rule, -, rfl⟩ := Traversal.map_eq_ok_iff.1 hfield
    rw [List.map_cons, List.map_cons, ih]

theorem distinct_of_read {document : Json} {mapping : Mapping} (hdocument : document.IsDocument)
    (h : read document = .ok mapping) : mapping.Distinct := by
  cases hdocument with
  | object hnames hmembers =>
    rw [Distinct, names_of_read h]
    exact hnames
  | _ => cases h

end Mapping

namespace Extractor

variable {x : Extractor} {subject : Subject} {context : Context} {mapping : Mapping}
  {accessor : Accessor} {ts : List Transformation} {failure : Failure}

/-! ### Failures of the extractor are not wrapped -/

theorem kind_of_extract_ne_stage (h : x.extract subject accessor ts context = .error failure) :
    failure.kind ≠ .stage := by
  obtain hresolve | ⟨value, -, hpipeline | ⟨p, -, hprocess⟩⟩ := extract_eq_error_iff.1 h
  · rw [Resolver.kind_of_resolve hresolve]
    simp
  · obtain ⟨t, -, rfl⟩ := Catalogue.pipeline_eq_error_iff.1 hpipeline
    have hkind : (Catalogue.unknownStage t.name).kind = .configuration := rfl
    simp [hkind]
  · exact p.process_ne_stage value context hprocess

theorem exists_plain_of_extract (h : x.extract subject accessor ts context = .error failure) :
    ∃ site messages cause, failure = .plain site messages cause := by
  cases failure with
  | plain site messages cause => exact ⟨site, messages, cause, rfl⟩
  | stage index inner => exact absurd rfl (kind_of_extract_ne_stage h)

/-! ### Fields -/

def extractRule (x : Extractor) (subject : Subject) (context : Context) (rule : FieldRule) :
    Except Failure Subject :=
  x.extract subject rule.accessor rule.transformations context

/-- An entry that holds what a field yields, under the name of the field. -/
def Produces (x : Extractor) (subject : Subject) (context : Context) (field : String × FieldRule)
    (entry : Key × Subject) : Prop :=
  entry.1 = .text field.1 ∧ x.extractRule subject context field.2 = .ok entry.2

def fieldMessage (name : String) : String :=
  "field '" ++ name ++ "' could not be produced"

theorem extractField_eq_ok_iff {name : String} {rule : FieldRule} {entry : Key × Subject} :
    x.extractField subject context name rule = .ok entry ↔
      x.Produces subject context (name, rule) entry := by
  obtain ⟨key, value⟩ := entry
  rw [extractField, Produces, extractRule]
  cases x.extract subject rule.accessor rule.transformations context with
  | error failure => simp
  | ok result => simp only [Except.ok.injEq, Prod.mk.injEq, eq_comm (a := key)]

theorem extractField_eq_error_iff {name : String} {rule : FieldRule} :
    x.extractField subject context name rule = .error failure ↔
      ∃ site messages cause, x.extractRule subject context rule =
          .error (.plain site messages cause) ∧
        failure = .plain site (messages ++ [fieldMessage name]) cause := by
  rw [extractField, extractRule]
  cases hrule : x.extract subject rule.accessor rule.transformations context with
  | ok result => simp
  | error inner =>
    obtain ⟨site, messages, cause, rfl⟩ := exists_plain_of_extract hrule
    constructor
    · rintro ⟨⟩
      exact ⟨site, messages, cause, rfl, rfl⟩
    · rintro ⟨_, _, _, ⟨⟩, rfl⟩
      rfl

theorem exists_extractField_iff {name : String} {rule : FieldRule} :
    (∃ entry, x.extractField subject context name rule = .ok entry) ↔
      ∃ value, x.extractRule subject context rule = .ok value := by
  simp only [extractField_eq_ok_iff, Produces]
  constructor
  · rintro ⟨entry, -, hvalue⟩
    exact ⟨entry.2, hvalue⟩
  · rintro ⟨value, hvalue⟩
    exact ⟨(.text name, value), rfl, hvalue⟩

/-! ### Mappings -/

theorem exists_extractFields_iff : (∃ value, x.extractFields subject mapping context = .ok value) ↔
    ∀ field ∈ mapping, ∃ value, x.extractRule subject context field.2 = .ok value := by
  rw [extractFields, Traversal.exists_map_eq_ok_iff, Traversal.exists_mapM_eq_ok_iff]
  simp only [exists_extractField_iff]

theorem extractFields_eq_ok_iff {value : Subject} :
    x.extractFields subject mapping context = .ok value ↔
      ∃ fields, List.Forall₂ (x.Produces subject context) mapping fields ∧
        value = .map (Entries.ofPairs fields) := by
  rw [extractFields, Traversal.map_eq_ok_iff]
  simp only [Traversal.mapM_eq_ok_iff, extractField_eq_ok_iff, eq_comm (b := value)]

theorem extractFields_eq_error_iff : x.extractFields subject mapping context = .error failure ↔
    ∃ before name rule after site messages cause, mapping = before ++ (name, rule) :: after ∧
      (∀ field ∈ before, ∃ value, x.extractRule subject context field.2 = .ok value) ∧
      x.extractRule subject context rule = .error (.plain site messages cause) ∧
      failure = .plain site (messages ++ [fieldMessage name]) cause := by
  rw [extractFields, Traversal.map_eq_error_iff, Traversal.mapM_eq_error_iff]
  simp only [exists_extractField_iff, extractField_eq_error_iff]
  constructor
  · rintro ⟨before, ⟨name, rule⟩, after, hsplit, hbefore, site, messages, cause, hrule⟩
    exact ⟨before, name, rule, after, site, messages, cause, hsplit, hbefore, hrule⟩
  · rintro ⟨before, name, rule, after, site, messages, cause, hsplit, hbefore, hrule⟩
    exact ⟨before, (name, rule), after, hsplit, hbefore, site, messages, cause, hrule⟩

theorem nodup_keys_of_distinct {fields : List (Key × Subject)} (hnames : mapping.Distinct)
    (h : List.Forall₂ (x.Produces subject context) mapping fields) :
    (fields.map Prod.fst).Nodup := by
  have hkeys : fields.map Prod.fst = (mapping.map Prod.fst).map Key.text := by
    clear hnames
    induction h with
    | nil => rfl
    | cons hfield _ ih => rw [List.map_cons, List.map_cons, List.map_cons, ih, hfield.1]
  rw [hkeys]
  exact List.Nodup.map (fun _ _ hkey => Key.text.inj hkey) hnames

/-- Extracting a mapping is extracting its fields. It succeeds exactly if all of them do, and then
has an entry for each, under its name and in order. Otherwise it fails as the first field that
fails, with a last message that names the field and with the same site and cause. -/
theorem extractFields_fieldwise (x : Extractor) (subject : Subject) (mapping : Mapping)
    (context : Context) :
    ((∃ value, x.extractFields subject mapping context = .ok value) ↔
      ∀ field ∈ mapping, ∃ value,
        x.extract subject field.2.accessor field.2.transformations context = .ok value) ∧
    (mapping.Distinct → ∀ value, x.extractFields subject mapping context = .ok value ↔
      ∃ fields, value = .map fields ∧ List.Forall₂ (fun field entry => entry.1 = .text field.1 ∧
        x.extract subject field.2.accessor field.2.transformations context = .ok entry.2)
        mapping fields) ∧
    ∀ failure, x.extractFields subject mapping context = .error failure ↔
      ∃ before name rule after site messages cause, mapping = before ++ (name, rule) :: after ∧
        (∀ field ∈ before, ∃ value,
          x.extract subject field.2.accessor field.2.transformations context = .ok value) ∧
        x.extract subject rule.accessor rule.transformations context =
          .error (.plain site messages cause) ∧
        failure = .plain site (messages ++ ["field '" ++ name ++ "' could not be produced"])
          cause := by
  refine ⟨exists_extractFields_iff, fun hnames value => ?_,
    fun failure => extractFields_eq_error_iff⟩
  rw [extractFields_eq_ok_iff]
  constructor
  · rintro ⟨fields, hfields, rfl⟩
    rw [Entries.ofPairs_of_nodup (nodup_keys_of_distinct hnames hfields)]
    exact ⟨fields, rfl, hfields⟩
  · rintro ⟨fields, rfl, hfields⟩
    refine ⟨fields, hfields, ?_⟩
    rw [Entries.ofPairs_of_nodup (nodup_keys_of_distinct hnames hfields)]

theorem extractFields_fieldwise_codes :
    let x := Extractor.standard ⟨32, .silent⟩
    let subject : Subject := .map [(.text "a", .int 1), (.text "b", .null)]
    let fields : Mapping := [("second", ⟨.path "b", []⟩), ("first", ⟨.path "a", []⟩)]
    let broken : Mapping := fields ++ [("third", ⟨.path "b", [⟨"required", []⟩]⟩)]
    fields.Distinct ∧
      x.extractFields subject fields .empty =
        .ok (.map [(.text "second", .null), (.text "first", .int 1)]) ∧
      x.extractFields subject broken .empty =
        .error (.plain (.invalidData "required" (some []) (some .null))
          ["value is required", "field 'third' could not be produced"] none) := by
  intro x subject fields broken
  have hnames : fields.Distinct := by simp [fields, Mapping.Distinct]
  obtain ⟨-, hfields, -⟩ := extractFields_fieldwise x subject fields .empty
  obtain ⟨-, -, hbroken⟩ := extractFields_fieldwise x subject broken .empty
  have hfirst : x.extract subject (.path "a") [] .empty = .ok (.int 1) := rfl
  have hsecond : x.extract subject (.path "b") [] .empty = .ok .null := rfl
  have hthird : x.extract subject (.path "b") [⟨"required", []⟩] .empty =
      .error (.plain (.invalidData "required" (some []) (some .null)) ["value is required"]
        none) := by
    have hpipeline : x.catalogue.pipeline [⟨"required", []⟩] =
        .ok ⟨[(Operation.validator BuiltIn.required).bind "required" []]⟩ := rfl
    have hresolve : x.resolver.resolve subject (.path "b") .empty = .ok .null := rfl
    rw [extract_eq_process hpipeline, hresolve]
    change Pipeline.process _ .null .empty = _
    rw [Pipeline.process, Pipeline.run_eq_fold]
    rfl
  refine ⟨hnames, (hfields hnames _).2 ⟨_, rfl, .cons ⟨rfl, hsecond⟩ (.cons ⟨rfl, hfirst⟩ .nil)⟩,
    (hbroken _).2 ⟨fields, "third", _, [], _, _, _, rfl, ?_, hthird, rfl⟩⟩
  simp only [fields, List.forall_mem_cons, List.not_mem_nil, false_implies, implies_true, and_true]
  exact ⟨⟨_, hsecond⟩, _, hfirst⟩

end Extractor

end Gleaner
