/-!
# Issues of a schema

What the check of a built schema can find.  Errors refuse the schema, warnings only speak
about names.
-/

namespace NodeGraph

/-- A finding that refuses a schema. -/
inductive SchemaIssue where
  | repeatedTypeName (typeName : String)
  | incompleteNode (nodeType : String)
  | noFields (nodeType : String)
  | emptyFieldName (nodeType : String)
  | repeatedField (field nodeType : String)
  | danglingReference (field nodeType : String)
  | emptyNodeName (nodeType : String)
  | repeatedNodeName (name : String)
  deriving DecidableEq, Repr, Inhabited

namespace SchemaIssue

def message : SchemaIssue → String
  | .repeatedTypeName typeName =>
      s!"Type name '{typeName}' is produced by more than one node type"
  | .incompleteNode nodeType => s!"Node '{nodeType}' was never completely built"
  | .noFields nodeType => s!"Node '{nodeType}' must declare at least one field"
  | .emptyFieldName nodeType => s!"Field name cannot be empty in node '{nodeType}'"
  | .repeatedField field nodeType =>
      s!"Field '{field}' is declared more than once in node '{nodeType}'"
  | .danglingReference field nodeType =>
      s!"Field '{field}' in node '{nodeType}' references a type outside the schema"
  | .emptyNodeName nodeType => s!"Node '{nodeType}' has an empty name"
  | .repeatedNodeName name => s!"Node name '{name}' is used by more than one node"

end SchemaIssue

/-- A finding about names that refuses nothing. -/
inductive SchemaWarning where
  | notIdentifier (field nodeType : String)
  | capitalField (field nodeType : String)
  | capitalNode (name : String)
  deriving DecidableEq, Repr, Inhabited

namespace SchemaWarning

def message : SchemaWarning → String
  | .notIdentifier field nodeType =>
      s!"Field name '{field}' in node '{nodeType}' is not a valid identifier"
  | .capitalField field nodeType =>
      s!"Field name '{field}' in node '{nodeType}' should start with a lowercase letter"
  | .capitalNode name => s!"Node name '{name}' should start with a lowercase letter"

end SchemaWarning

/-- Why there is no schema. -/
inductive SchemaFault where
  | refused (issues : List SchemaIssue)
  | argumentsInUse
  | stated (text : String)
  deriving DecidableEq, Repr, Inhabited

namespace SchemaFault

/-- The fault in words; several issues are divided by semicolons. -/
def message : SchemaFault → String
  | .refused issues => "; ".intercalate (issues.map SchemaIssue.message)
  | .argumentsInUse => "the global argument registry is already initialised"
  | .stated text => text

end SchemaFault

end NodeGraph
