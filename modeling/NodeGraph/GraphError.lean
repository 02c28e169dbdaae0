import NodeGraph.Argument.Fault
import NodeGraph.Execution.Fault
import NodeGraph.Schema.Issue
import NodeGraph.Store.Fault

/-!
# Errors

Everything that can go wrong while a schema is constructed or a request is answered.  The
two phases are told apart by `GraphError.isRequestError`.
-/

namespace NodeGraph

/-- Why a statement cannot be rendered. -/
inductive ClauseFault where
  | missingFragments
  | stated (text : String)
  deriving DecidableEq, Repr, Inhabited

def ClauseFault.message : ClauseFault → String
  | .missingFragments => "not enough fields combined to form SQL statements"
  | .stated text => text

/-- An error of schema construction, argument validation or query execution. -/
inductive GraphError where
  /-- A field names a type that is neither a scalar nor a registered node. -/
  | unsupportedFieldType (fieldType : String)
  /-- A node type was looked up that nobody registered. -/
  | unsupportedNodeType (nodeType : String)
  /-- A node type was registered twice. -/
  | duplicateNode (nodeType : String)
  /-- Two nodes share a name. -/
  | duplicateName (name : String)
  /-- The schema was refused. -/
  | schema (fault : SchemaFault)
  /-- A value does not have the shape its argument kind expects. -/
  | invalidArgument (argument : String) (fault : ArgumentFault)
  /-- No argument kind has this name. -/
  | unknownArgument (argument : String)
  /-- The queried field does not accept the argument. -/
  | unsupportedArgument (field argument : String)
  /-- A filter names an operator outside the vocabulary. -/
  | unsupportedOperation (operator : String)
  /-- A statement lacks a fragment. -/
  | incompleteQuery (fault : ClauseFault)
  /-- The document cannot be executed against the schema. -/
  | query (fault : QueryFault)
  /-- The data source of a field failed. -/
  | execution (field : String) (fault : SourceFault)
  /-- The request was cancelled. -/
  | cancelled
  deriving DecidableEq, Repr, Inhabited

namespace GraphError

def message : GraphError → String
  | .unsupportedFieldType fieldType => s!"unsupported field type: {fieldType}"
  | .unsupportedNodeType nodeType => s!"unsupported node type: {nodeType}"
  | .duplicateNode nodeType => s!"node type '{nodeType}' is already registered"
  | .duplicateName name => s!"node name '{name}' is used by more than one node"
  | .schema fault => s!"schema error: {fault.message}"
  | .invalidArgument argument fault => s!"invalid {argument} argument: {fault.message}"
  | .unknownArgument argument => s!"unknown argument kind: {argument}"
  | .unsupportedArgument field argument =>
      s!"field '{field}' does not accept argument '{argument}'"
  | .unsupportedOperation operator => s!"unsupported operation type: {operator}"
  | .incompleteQuery fault => s!"incomplete query: {fault.message}"
  | .query fault => s!"query error: {fault.message}"
  | .execution field fault => s!"failed to resolve '{field}': {fault.message}"
  | .cancelled => "request cancelled"

/-- Errors that one request causes, as opposed to the schema itself. -/
def isRequestError : GraphError → Bool
  | .unsupportedFieldType _ => false
  | .unsupportedNodeType _ => false
  | .duplicateNode _ => false
  | .duplicateName _ => false
  | .schema _ => false
  | .invalidArgument .. => true
  | .unknownArgument _ => true
  | .unsupportedArgument .. => true
  | .unsupportedOperation _ => true
  | .incompleteQuery _ => true
  | .query _ => true
  | .execution .. => true
  | .cancelled => true

end GraphError

end NodeGraph
