import NodeGraph.Schema.Validation
import Mathlib.Data.List.Duplicate

/-!
# What the check of a schema reports

Each error of a report stands for a defect of the schema, and each defect is reported: an
issue is among the errors exactly if the schema shows it.  The statements are proved along
the three passes of the check, over fields, objects and root fields, for any names that an
earlier part of the pass has seen.
-/

namespace NodeGraph

namespace Schema

open SchemaReport

variable {R : Type}

@[simp]
theorem mem_errors_errorIf {condition : Bool} {issue expected : SchemaIssue} :
    issue ∈ (errorIf condition expected).errors ↔ condition = true ∧ issue = expected := by
  cases condition <;> simp [errorIf]

@[simp]
theorem errors_warningIf (condition : Bool) (warning : SchemaWarning) :
    (warningIf condition warning).errors = [] := by
  cases condition <;> rfl

@[simp]
theorem errors_fieldNameReport (name nodeType : String) :
    (fieldNameReport name nodeType).errors = [] := by
  unfold fieldNameReport
  split <;> simp

/-- A name is among `names` again, or at all if it was seen before. -/
def Repeats (seen : List String) (name : String) (names : List String) : Prop :=
  name ∈ seen ∧ name ∈ names ∨ List.Duplicate name names

@[simp]
theorem repeats_nil {seen : List String} {name : String} : ¬ Repeats seen name [] := by
  simp [Repeats]

@[simp]
theorem repeats_start {name : String} {names : List String} :
    Repeats [] name names ↔ List.Duplicate name names := by
  simp [Repeats]

theorem repeats_cons_iff {seen names : List String} {name first : String} :
    Repeats seen name (first :: names) ↔
      first ∈ seen ∧ name = first ∨ Repeats (first :: seen) name names := by
  simp only [Repeats, List.mem_cons, List.duplicate_cons_iff]
  constructor
  · rintro (⟨known, rfl | later⟩ | ⟨rfl, later⟩ | later)
    · exact .inl ⟨known, rfl⟩
    · exact .inr (.inl ⟨.inr known, later⟩)
    · exact .inr (.inl ⟨.inl rfl, later⟩)
    · exact .inr (.inr later)
  · rintro (⟨known, rfl⟩ | ⟨rfl | known, later⟩ | later)
    · exact .inl ⟨known, .inl rfl⟩
    · exact .inr (.inl ⟨rfl, later⟩)
    · exact .inl ⟨known, .inr later⟩
    · exact .inr (.inr later)

theorem repeats_cons_of_ne {seen names : List String} {name first : String}
    (different : name ≠ first) :
    Repeats seen name (first :: names) ↔ Repeats seen name names := by
  simp [Repeats, List.duplicate_cons_iff, different, different.symm]

/-- The issues of some fields, after fields of the names `seen`. -/
def FieldsShow (schema : Schema R) (nodeType : String) (seen : List String)
    (fields : List (SchemaField R)) : SchemaIssue → Prop
  | .emptyFieldName tag => tag = nodeType ∧ ∃ field ∈ fields, field.name = ""
  | .repeatedField name tag =>
      tag = nodeType ∧ name ≠ "" ∧ Repeats seen name (fields.map SchemaField.name)
  | .danglingReference name tag => tag = nodeType ∧ name ≠ "" ∧
      ∃ field ∈ fields, field.name = name ∧ schema.isDangling field.output = true
  | _ => False

/-- The issues of one object. -/
def ObjectShows (schema : Schema R) (object : ObjectType R) : SchemaIssue → Prop
  | .incompleteNode tag => tag = object.nodeType ∧ object.complete = false
  | .noFields tag => tag = object.nodeType ∧ object.fields = []
  | issue => schema.FieldsShow object.nodeType [] object.fields issue

/-- The issues of root fields, after root fields of the names `seen`. -/
def RootsShow (seen : List String) (roots : List (RootField R)) : SchemaIssue → Prop
  | .emptyNodeName tag => ∃ root ∈ roots, root.nodeType = tag ∧ root.name = ""
  | .repeatedNodeName name => name ≠ "" ∧ Repeats seen name (roots.map RootField.name)
  | _ => False

/-- The issues of objects, after objects of the type names `seen`. -/
def ObjectsShow (schema : Schema R) (seen : List String) (objects : List (ObjectType R)) :
    SchemaIssue → Prop
  | .repeatedTypeName name => Repeats seen name (objects.map ObjectType.name)
  | issue => ∃ object ∈ objects, schema.ObjectShows object issue

/-- The issues of a schema. -/
def Shows (schema : Schema R) (issue : SchemaIssue) : Prop :=
  schema.ObjectsShow [] schema.objects issue ∨ RootsShow [] schema.roots issue

theorem mem_errors_fieldsReport (schema : Schema R) (nodeType : String) (seen : List String)
    (fields : List (SchemaField R)) (issue : SchemaIssue) :
    issue ∈ (schema.fieldsReport nodeType seen fields).errors ↔
      schema.FieldsShow nodeType seen fields issue := by
  induction fields generalizing seen with
  | nil => cases issue <;> simp [fieldsReport, FieldsShow]
  | cons field rest ih =>
      by_cases unnamed : field.name = ""
      · have empty : field.name.isEmpty = true := by simpa using unnamed
        rw [fieldsReport, if_pos empty, errors_append, List.mem_append, ih]
        cases issue with
        | emptyFieldName tag =>
            simp [FieldsShow, unnamed]
            exact fun same _ _ _ => same
        | repeatedField name tag =>
            simp [FieldsShow, unnamed]
            exact fun _ named => (repeats_cons_of_ne named).symm
        | danglingReference name tag =>
            simp [FieldsShow, unnamed]
            exact fun _ named same => absurd same named
        | _ => simp [FieldsShow]
      · have named : ¬ field.name.isEmpty = true := by simpa using unnamed
        rw [fieldsReport, if_neg named]
        simp only [errors_append, List.mem_append, ih, errors_fieldNameReport,
          List.not_mem_nil, or_false]
        cases issue with
        | emptyFieldName tag => simp [FieldsShow, unnamed]
        | repeatedField name tag =>
            simp [FieldsShow, repeats_cons_iff]
            grind
        | danglingReference name tag =>
            simp [FieldsShow]
            grind
        | _ => simp [FieldsShow]

theorem mem_errors_objectReport (schema : Schema R) (object : ObjectType R)
    (issue : SchemaIssue) :
    issue ∈ (schema.objectReport object).errors ↔ schema.ObjectShows object issue := by
  unfold objectReport
  rw [errors_append, List.mem_append]
  by_cases none : object.fields = []
  · simp only [none, List.isEmpty_nil, if_true, mem_errors_errorIf]
    cases issue <;> simp [ObjectShows, FieldsShow, none, and_comm]
  · have some : object.fields.isEmpty = false := by simpa using none
    simp only [some, Bool.false_eq_true, if_false, mem_errors_errorIf, mem_errors_fieldsReport]
    cases issue <;> simp [ObjectShows, FieldsShow, none, and_comm]

theorem mem_errors_objectsReport (schema : Schema R) (seen : List String)
    (objects : List (ObjectType R)) (issue : SchemaIssue) :
    issue ∈ (schema.objectsReport seen objects).errors ↔
      schema.ObjectsShow seen objects issue := by
  induction objects generalizing seen with
  | nil => cases issue <;> simp [objectsReport, ObjectsShow]
  | cons object rest ih =>
      simp only [objectsReport, errors_append, List.mem_append, mem_errors_errorIf,
        mem_errors_objectReport, ih]
      cases issue with
      | repeatedTypeName name =>
          simp [ObjectsShow, ObjectShows, FieldsShow, repeats_cons_iff]
      | _ => simp [ObjectsShow]

theorem mem_errors_rootsReport (seen : List String) (roots : List (RootField R))
    (issue : SchemaIssue) :
    issue ∈ (rootsReport seen roots).errors ↔ RootsShow seen roots issue := by
  induction roots generalizing seen with
  | nil => cases issue <;> simp [rootsReport, RootsShow]
  | cons root rest ih =>
      by_cases unnamed : root.name = ""
      · have empty : root.name.isEmpty = true := by simpa using unnamed
        rw [rootsReport, if_pos empty, errors_append, List.mem_append, ih]
        cases issue with
        | emptyNodeName tag =>
            simp only [mem_errors_errorIf, SchemaIssue.emptyNodeName.injEq, true_and, RootsShow,
              List.exists_mem_cons_iff, unnamed, and_true]
            rw [eq_comm]
        | repeatedNodeName name =>
            simp [RootsShow, unnamed]
            exact fun named => (repeats_cons_of_ne named).symm
        | _ => simp [RootsShow]
      · have named : ¬ root.name.isEmpty = true := by simpa using unnamed
        rw [rootsReport, if_neg named]
        simp only [errors_append, List.mem_append, ih, errors_warningIf, List.not_mem_nil,
          or_false]
        cases issue with
        | emptyNodeName tag => simp [RootsShow, unnamed]
        | repeatedNodeName name =>
            simp [RootsShow, repeats_cons_iff]
            grind
        | _ => simp [RootsShow]

theorem report_eq (schema : Schema R) :
    schema.report = schema.objectsReport [] schema.objects ++ rootsReport [] schema.roots :=
  rfl

/-- The errors of a report are the issues that the schema shows. -/
theorem mem_errors_report (schema : Schema R) (issue : SchemaIssue) :
    issue ∈ schema.report.errors ↔ schema.Shows issue := by
  rw [report_eq, errors_append, List.mem_append, mem_errors_objectsReport,
    mem_errors_rootsReport]
  rfl

theorem isValid_report_iff (schema : Schema R) :
    schema.report.isValid = true ↔ ∀ issue, ¬ schema.Shows issue := by
  simp only [isValid, List.isEmpty_iff, List.eq_nil_iff_forall_not_mem, mem_errors_report]

end Schema

end NodeGraph
