import NodeGraph.Document.Ast
import NodeGraph.GraphError

/-!
# Choosing an operation

A request runs one query of its document.  Fragments, mutations and subscriptions are
refused wherever they stand, and the first of them decides the error; then the name of the
request chooses among the queries.
-/

namespace NodeGraph

/-- A query that a request may run. -/
structure QueryOperation where
  name : Option String
  declared : List VariableDefinition
  selections : List Selection
  deriving Repr, Inhabited

namespace QueryDocument

def queryOf : Definition → Except GraphError QueryOperation
  | .fragment name _ _ => .error (.query (.fragmentDefinition name))
  | .operation .mutation _ _ _ => .error (.query .mutation)
  | .operation .subscription _ _ _ => .error (.query .subscription)
  | .operation .query name declared selections => .ok ⟨name, declared, selections⟩
  | .selectionSet selections => .ok ⟨none, [], selections⟩

/-- The queries of a document in order. -/
def queries (document : QueryDocument) : Except GraphError (List QueryOperation) :=
  document.mapM queryOf

/-- Choose among queries: the first with the wanted name, or the only one. -/
def choose (wanted : Option String) (operations : List QueryOperation) :
    Except GraphError QueryOperation :=
  match wanted with
  | some name =>
      match operations.find? fun operation => operation.name == some name with
      | some operation => .ok operation
      | none => .error (.query (.unknownOperation name))
  | none =>
      match operations with
      | [operation] => .ok operation
      | [] => .error (.query .noOperation)
      | _ :: _ :: _ => .error (.query .operationNameNeeded)

/-- The query that a request with the given operation name runs. -/
def selectOperation (document : QueryDocument) (wanted : Option String) :
    Except GraphError QueryOperation := do
  choose wanted (← queries document)

end QueryDocument

end NodeGraph
