import NodeGraph.Proofs.Execution.Steps

/-!
# Documents whose selections change

A request is executed as the document that its text is read into.  Which operation of a document
is executed depends on the names of its operations only, so a change of the selections commutes
with the choice.
-/

namespace NodeGraph

namespace Execution

variable {World : Type}

/-- Computing in two parts is computing the first and then the second. -/
theorem ofExcept_bind {α β γ : Type} (result : Except GraphError α) (next : α → Except GraphError β)
    (rest : β → Execution World γ) :
    ofExcept (result >>= next) >>= rest =
      ofExcept result >>= fun given => ofExcept (next given) >>= rest := by
  cases result <;> rfl

theorem ofExcept_pure_bind {α β : Type} (value : α) (rest : α → Execution World β) :
    ofExcept (pure value : Except GraphError α) >>= rest = rest value :=
  rfl

end Execution

/-- The definition with other selections. -/
def Definition.mapSelections (change : List Selection → List Selection) : Definition → Definition
  | .selectionSet selections => .selectionSet (change selections)
  | .operation kind name declared selections => .operation kind name declared (change selections)
  | .fragment name typeCondition selections => .fragment name typeCondition (change selections)

def QueryOperation.mapSelections (change : List Selection → List Selection)
    (operation : QueryOperation) : QueryOperation :=
  { operation with selections := change operation.selections }

namespace QueryDocument

/-- A text is read from the tokens into which it is divided. -/
theorem parse?_of_tokenize? {text : String} {tokens : List Token}
    (divided : Token.tokenize? text = some tokens) :
    parse? text = readDefinitions (2 * tokens.length + 4) (tokens.length + 1) [] tokens := by
  rw [parse?, divided]

variable (change : List Selection → List Selection)

/-- The document with other selections in each of its definitions. -/
def mapSelections (document : QueryDocument) : QueryDocument :=
  document.map (Definition.mapSelections change)

theorem queries_mapSelections (document : QueryDocument) :
    queries (mapSelections change document) =
      (queries document).map (List.map (QueryOperation.mapSelections change)) := by
  unfold queries mapSelections
  induction document with
  | nil => rfl
  | cons definition rest ih =>
      have first : queryOf (definition.mapSelections change) =
          (queryOf definition).map (QueryOperation.mapSelections change) := by
        cases definition with
        | selectionSet selections => rfl
        | operation kind name declared selections => cases kind <;> rfl
        | fragment name typeCondition selections => rfl
      rw [List.map_cons, List.mapM_cons, List.mapM_cons, first, ih]
      cases queryOf definition with
      | error fault => rfl
      | ok operation => cases rest.mapM queryOf <;> rfl

theorem choose_mapSelections (wanted : Option String) (operations : List QueryOperation) :
    choose wanted (operations.map (QueryOperation.mapSelections change)) =
      (choose wanted operations).map (QueryOperation.mapSelections change) := by
  cases wanted with
  | some name =>
      have found : (operations.map (QueryOperation.mapSelections change)).find?
            (fun operation => operation.name == some name) =
          (operations.find? fun operation => operation.name == some name).map
            (QueryOperation.mapSelections change) := by
        rw [List.find?_map]
        rfl
      unfold choose
      dsimp only
      rw [found]
      cases operations.find? fun operation => operation.name == some name <;> rfl
  | none =>
      rcases operations with _ | ⟨first, _ | ⟨second, rest⟩⟩ <;> rfl

/-- The operation that is chosen after a change of the selections is the changed one. -/
theorem selectOperation_mapSelections (document : QueryDocument) (wanted : Option String) :
    (document.mapSelections change).selectOperation wanted =
      (document.selectOperation wanted).map (QueryOperation.mapSelections change) := by
  rw [selectOperation, selectOperation, queries_mapSelections]
  cases queries document with
  | error fault => rfl
  | ok operations => exact choose_mapSelections change wanted operations

end QueryDocument

namespace Schema

variable {World : Type}

/-- Execute a document that has been read. -/
def executeDocument (schema : Schema (Resolver World)) (document : QueryDocument)
    (operationName : Option String) (provided : JsonObject) : Execution World Json := do
  let operation ← Execution.ofExcept (document.selectOperation operationName)
  let bindings ← Execution.ofExcept (VariableDefinition.bind operation.declared provided)
  Execution.rootSelections schema bindings operation.selections

theorem prepare_of_parsed {request : QueryRequest} {document : QueryDocument}
    (parsed : QueryDocument.parse? request.query = some document) :
    prepare request = do
      let operation ← document.selectOperation request.operationName
      let bindings ← VariableDefinition.bind operation.declared request.provided
      return (operation.selections, bindings) := by
  rw [prepare, parsed]
  rfl

theorem executeDocument_of_selected (schema : Schema (Resolver World)) {document : QueryDocument}
    {operationName : Option String} {operation : QueryOperation}
    (selected : document.selectOperation operationName = .ok operation) (provided : JsonObject) :
    schema.executeDocument document operationName provided =
      Execution.ofExcept (VariableDefinition.bind operation.declared provided) >>= fun bindings =>
        Execution.rootSelections schema bindings operation.selections := by
  rw [executeDocument, selected]
  exact Execution.ofExcept_pure_bind _ _

/-- A request is executed as the document that it is read into. -/
theorem execute_eq_executeDocument (schema : Schema (Resolver World)) {request : QueryRequest}
    {document : QueryDocument} (parsed : QueryDocument.parse? request.query = some document) :
    schema.execute request =
      schema.executeDocument document request.operationName request.provided := by
  rw [execute, executeDocument, prepare_of_parsed parsed]
  simp only [Execution.ofExcept_bind, Execution.ofExcept_pure_bind]

end Schema

end NodeGraph
