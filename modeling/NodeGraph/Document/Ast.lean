import NodeGraph.Number.Binary64

/-!
# Query documents

The parts of a query document that decide how it is executed.  Directives and the types of
variables are read and dropped, because nothing depends on them.
-/

namespace NodeGraph

/-- A literal value in a document.  The fields of an object are in ascending order of
their names, each once. -/
inductive Literal where
  | variable (name : String)
  | int (value : Int)
  | float (value : Binary64)
  | string (value : String)
  | boolean (value : Bool)
  | null
  | enumeration (name : String)
  | list (items : List Literal)
  | object (fields : List (String × Literal))
  deriving Repr, Inhabited

/-- A selection of a selection set. -/
inductive Selection where
  | field (renamed : Option String) (name : String) (arguments : List (String × Literal))
      (selections : List Selection)
  | fragmentSpread (name : String)
  | inlineFragment (typeCondition : Option String) (selections : List Selection)
  deriving Repr, Inhabited

/-- A declared variable with its default. -/
structure VariableDefinition where
  name : String
  default : Option Literal := none
  deriving Repr, Inhabited

/-- The kinds of named operations. -/
inductive OperationKind where
  | query
  | mutation
  | subscription
  deriving DecidableEq, Repr, Inhabited

/-- A definition of a document.  A selection set by itself is a query without a name. -/
inductive Definition where
  | selectionSet (selections : List Selection)
  | operation (kind : OperationKind) (name : Option String)
      (declared : List VariableDefinition) (selections : List Selection)
  | fragment (name typeCondition : String) (selections : List Selection)
  deriving Repr, Inhabited

/-- A query document. -/
abbrev QueryDocument := List Definition

namespace Selection

/-- The key of a field in the response: its alias if it has one. -/
def responseKey (renamed : Option String) (name : String) : String := renamed.getD name

end Selection

end NodeGraph
