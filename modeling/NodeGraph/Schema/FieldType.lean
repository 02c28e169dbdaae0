/-!
# Field types

A field is declared with a scalar type or with the type tag of a node.
-/

namespace NodeGraph

/-- The scalar types of fields. -/
inductive ScalarType where
  | string
  | int
  | float
  | boolean
  deriving DecidableEq, Repr, Inhabited

namespace ScalarType

/-- The name of a scalar type in a schema, which is also its tag. -/
def name : ScalarType → String
  | .string => "String"
  | .int => "Int"
  | .float => "Float"
  | .boolean => "Boolean"

def ofTag? (tag : String) : Option ScalarType :=
  [ScalarType.string, .int, .float, .boolean].find? fun scalar => scalar.name == tag

@[simp]
theorem ofTag?_name (scalar : ScalarType) : ofTag? scalar.name = some scalar := by
  cases scalar <;> decide

end ScalarType

/-- The declared type of a field. -/
inductive FieldType where
  | scalar (scalar : ScalarType)
  | node (tag : String)
  deriving DecidableEq, Repr, Inhabited

namespace FieldType

/-- The type of a tag; every tag that is no scalar's refers to a node. -/
def ofTag (tag : String) : FieldType :=
  match ScalarType.ofTag? tag with
  | some primitive => .scalar primitive
  | none => .node tag

def tag : FieldType → String
  | .scalar primitive => primitive.name
  | .node tag => tag

def nodeType? : FieldType → Option String
  | .scalar _ => none
  | .node tag => some tag

end FieldType

end NodeGraph
