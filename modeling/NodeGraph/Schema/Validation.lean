import NodeGraph.Schema.Types
import NodeGraph.Text.Case

/-!
# Checking schemas

The check of a schema reports errors and warnings in the order of its objects, their
fields, and then the root fields.  A schema without errors is valid, whatever the
warnings.
-/

namespace NodeGraph

/-- What a check has found. -/
structure SchemaReport where
  errors : List SchemaIssue := []
  warnings : List SchemaWarning := []
  deriving DecidableEq, Repr, Inhabited

namespace SchemaReport

def append (first second : SchemaReport) : SchemaReport :=
  ⟨first.errors ++ second.errors, first.warnings ++ second.warnings⟩

instance : Append SchemaReport := ⟨append⟩

/-- A report of an error, if a condition holds. -/
def errorIf (condition : Bool) (issue : SchemaIssue) : SchemaReport :=
  if condition then { errors := [issue] } else {}

/-- A report of a warning, if a condition holds. -/
def warningIf (condition : Bool) (warning : SchemaWarning) : SchemaReport :=
  if condition then { warnings := [warning] } else {}

/-- A valid schema has no errors. -/
def isValid (report : SchemaReport) : Bool := report.errors.isEmpty

def size (report : SchemaReport) : Nat := report.errors.length + report.warnings.length

@[simp]
theorem errors_append (first second : SchemaReport) :
    (first ++ second).errors = first.errors ++ second.errors :=
  rfl

@[simp]
theorem warnings_append (first second : SchemaReport) :
    (first ++ second).warnings = first.warnings ++ second.warnings :=
  rfl

end SchemaReport

namespace Schema

open SchemaReport

variable {R : Type}

def isNameStart (c : Char) : Bool := c.isAlpha || c == '_'

/-- A letter, digit or underscore. -/
def isNamePart (c : Char) : Bool := c.isAlphanum || c == '_'

/-- A name of ASCII letters, digits and underscores that starts with no digit. -/
def isIdentifier (name : String) : Bool :=
  match name.toList with
  | [] => false
  | first :: rest => isNameStart first && rest.all isNamePart

/-- Whether a name starts with a character in upper case. -/
def startsUppercase (name : String) : Bool :=
  match name.toList with
  | [] => false
  | first :: _ => Text.isUppercase first

def fieldNameReport (name nodeType : String) : SchemaReport :=
  if !isIdentifier name then warningIf true (.notIdentifier name nodeType)
  else warningIf (startsUppercase name) (.capitalField name nodeType)

/-- Whether a type points at a position that holds no object. -/
def isDangling (schema : Schema R) (output : OutputType) : Bool :=
  match output.objectId? with
  | none => false
  | some id => decide (schema.objects.length ≤ id)

/-- What is found about the fields of an object, after fields of the names `seen`. -/
def fieldsReport (schema : Schema R) (nodeType : String) (seen : List String) :
    List (SchemaField R) → SchemaReport
  | [] => {}
  | field :: rest =>
      if field.name.isEmpty then
        errorIf true (.emptyFieldName nodeType) ++ fieldsReport schema nodeType seen rest
      else
        errorIf (decide (field.name ∈ seen)) (.repeatedField field.name nodeType) ++
          fieldNameReport field.name nodeType ++
          errorIf (schema.isDangling field.output) (.danglingReference field.name nodeType) ++
          fieldsReport schema nodeType (field.name :: seen) rest

def objectReport (schema : Schema R) (object : ObjectType R) : SchemaReport :=
  errorIf (!object.complete) (.incompleteNode object.nodeType) ++
    if object.fields.isEmpty then errorIf true (.noFields object.nodeType)
    else schema.fieldsReport object.nodeType [] object.fields

/-- What is found about objects, after objects of the type names `seen`. -/
def objectsReport (schema : Schema R) (seen : List String) :
    List (ObjectType R) → SchemaReport
  | [] => {}
  | object :: rest =>
      errorIf (decide (object.name ∈ seen)) (.repeatedTypeName object.name) ++
        schema.objectReport object ++
        schema.objectsReport (object.name :: seen) rest

/-- What is found about root fields, after root fields of the names `seen`. -/
def rootsReport (seen : List String) : List (RootField R) → SchemaReport
  | [] => {}
  | root :: rest =>
      if root.name.isEmpty then
        errorIf true (.emptyNodeName root.nodeType) ++ rootsReport seen rest
      else
        errorIf (decide (root.name ∈ seen)) (.repeatedNodeName root.name) ++
          warningIf (startsUppercase root.name) (.capitalNode root.name) ++
          rootsReport (root.name :: seen) rest

end Schema

/-- A validator with what it has found. -/
structure SchemaValidator where
  found : SchemaReport := {}
  deriving DecidableEq, Repr, Inhabited

namespace SchemaValidator

variable {R : Type}

/-- Take findings down after those that are there. -/
def note (validator : SchemaValidator) (findings : SchemaReport) : SchemaValidator :=
  { found := validator.found ++ findings }

/-- Forget what was found. -/
def clear (_ : SchemaValidator) : SchemaValidator := {}

/-- Check a schema.  What an earlier check may have left is forgotten first, and what this one
finds is handed out. -/
def validate (validator : SchemaValidator) (schema : Schema R) :
    SchemaReport × SchemaValidator :=
  let onObjects := validator.clear.note (schema.objectsReport [] schema.objects)
  let checked := onObjects.note (Schema.rootsReport [] schema.roots)
  (checked.found, checked.clear)

end SchemaValidator

/-- What a new validator finds about a schema. -/
def Schema.report {R : Type} (schema : Schema R) : SchemaReport :=
  (SchemaValidator.validate {} schema).1

end NodeGraph
