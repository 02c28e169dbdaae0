/-!
# Faults of a query

The reasons for which a query document cannot be executed against a schema.
-/

namespace NodeGraph

/-- Why a query document is refused. -/
inductive QueryFault where
  | malformedDocument
  | fragmentDefinition (name : String)
  | mutation
  | subscription
  | unknownOperation (name : String)
  | noOperation
  | operationNameNeeded
  | undefinedVariable (name : String)
  | invalidFloat (text : String)
  | fragmentSpread (name : String)
  | inlineFragment
  | unknownField (field typeName : String)
  | notNode (field : String)
  | scalarWithSelection (field typeName : String)
  | copiedWithArguments (field typeName : String)
  | itemNotObject (field typeName : String)
  | valueNotObject (field typeName : String)
  | stated (text : String)
  deriving DecidableEq, Repr, Inhabited

namespace QueryFault

def message : QueryFault → String
  | .malformedDocument => "GraphQL parse error"
  | .fragmentDefinition name => s!"fragment '{name}' is not supported"
  | .mutation => "mutations are not supported"
  | .subscription => "subscriptions are not supported"
  | .unknownOperation name => s!"unknown operation '{name}'"
  | .noOperation => "document contains no query operation"
  | .operationNameNeeded =>
      "document contains several operations, an operation name is required"
  | .undefinedVariable name => s!"variable ${name} is not defined"
  | .invalidFloat text => s!"invalid float literal {text}"
  | .fragmentSpread name => s!"fragment spread '{name}' is not supported"
  | .inlineFragment => "inline fragments are not supported"
  | .unknownField field typeName => s!"unknown field '{field}' on {typeName}"
  | .notNode field => s!"field '{field}' is not a node"
  | .scalarWithSelection field typeName =>
      s!"field '{field}' on {typeName} is a scalar and takes no selection"
  | .copiedWithArguments field typeName =>
      s!"field '{field}' on {typeName} is read from its parent and takes no arguments"
  | .itemNotObject field typeName =>
      s!"field '{field}' on {typeName} holds a non-object item"
  | .valueNotObject field typeName =>
      s!"field '{field}' on {typeName} does not hold an object"
  | .stated text => text

end QueryFault

end NodeGraph
