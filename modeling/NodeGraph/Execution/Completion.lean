import NodeGraph.Execution.Operation
import NodeGraph.Execution.Request
import NodeGraph.Execution.Variables
import NodeGraph.Document.Parser
import NodeGraph.Resolver
import NodeGraph.Schema.Sdl

/-!
# Executing queries

A selection set is answered selection by selection, and every record that a resolver
returns is completed before the next one.  The progress of a request keeps the calls of
resolvers in order, next to the state that they share.
-/

namespace NodeGraph

/-- How far a request has come: the shared state and the calls made so far. -/
structure Progress (World : Type) where
  state : RequestState World
  calls : List ResolveParams := []

/-- A step of execution.  An error keeps the progress made before it. -/
abbrev Execution (World : Type) := ExceptT GraphError (StateM (Progress World))

/-- The field name that stands for the name of the type. -/
def typenameField : String := "__typename"

namespace Execution

variable {World : Type}

/-- A step that only computes. -/
def ofExcept {α : Type} (result : Except GraphError α) : Execution World α :=
  fun progress => (result, progress)

/-- Call a resolver, unless the request was cancelled. -/
def call (resolver : Resolver World) (params : ResolveParams) :
    Execution World (List Record) := fun progress =>
  if progress.state.cancelled then (.error .cancelled, progress)
  else
    let answer := resolver params progress.state
    (answer.1, ⟨answer.2, progress.calls ++ [params]⟩)

def fieldName : Selection → Except GraphError String
  | .field _ name _ _ => .ok name
  | .fragmentSpread name => .error (.query (.fragmentSpread name))
  | .inlineFragment _ _ => .error (.query .inlineFragment)

/-- The distinct names of selected fields in order of first appearance. -/
def selectedNames (selections : List Selection) : Except GraphError (List String) := do
  let names ← selections.mapM fieldName
  return (names.filter fun name => name != typenameField).eraseDups

def validated (schema : Schema (Resolver World)) (bindings : JsonObject) (field : String)
    (accepted : List ArgumentDefinition) (arguments : List (String × Literal)) :
    Except GraphError ValidatedArguments := do
  let raw ← Literal.toJsonFields bindings arguments
  ValidatedArguments.validate schema.arguments field accepted (JsonObject.ofEntries raw)

/-- Shape completed records: a list of all, or the first or null. -/
def shape (isList : Bool) (records : List Record)
    (complete : Record → Execution World Json) : Execution World Json :=
  if isList then do return .array (← records.mapM complete)
  else
    match records with
    | [] => return .null
    | record :: _ => complete record

/-- Resolve a field that refers to a node and complete what its resolver returns. -/
def resolveNode (schema : Schema (Resolver World)) (bindings : JsonObject)
    (field : String) (resolver : Resolver World) (accepted : List ArgumentDefinition)
    (output : OutputType) (arguments : List (String × Literal))
    (selections : List Selection) (parent : Option Record)
    (complete : ObjectType (Resolver World) → Record → Execution World Json) :
    Execution World Json :=
  match output.objectId? with
  | none => throw (.query (.notNode field))
  | some id => do
      let arguments ← ofExcept (validated schema bindings field accepted arguments)
      let selection ← ofExcept (selectedNames selections)
      let records ← call resolver { field, arguments, selection, parent }
      shape output.isList records (complete (schema.object id))

/-- The value of a scalar field: computed by its resolver, or read from the record. -/
def resolveScalar (field : SchemaField (Resolver World)) (arguments : ValidatedArguments)
    (record : Record) : Execution World Json :=
  let valueIn (found : Record) : Json := (JsonObject.find? found field.name).getD .null
  match field.resolver with
  | none => return valueIn record
  | some resolver => do
      let records ← call resolver
        { field := field.name, arguments, selection := [field.name], parent := some record }
      shape field.output.isList records fun found => return valueIn found

/-- The object of an item that is read from a record. -/
def itemRecord (field typeName : String) : Json → Except GraphError Record
  | .object fields => .ok fields
  | _ => .error (.query (.itemNotObject field typeName))

/-- Complete the objects that a field of the parent record holds. -/
def copyNode (field typeName : String) (found : Option Json)
    (complete : Record → Execution World Json) : Execution World Json :=
  match found with
  | none => return .null
  | some .null => return .null
  | some (.object fields) => complete fields
  | some (.array items) => do
      let records ← ofExcept (items.mapM (itemRecord field typeName))
      shape true records complete
  | some _ => throw (.query (.valueNotObject field typeName))

/-- The object of answered selections.  A repeated key keeps its first position and its
last value. -/
def answeredObject (entries : List (String × Json)) : Json :=
  .object (JsonObject.ofEntries entries)

/-- Answer a selected field of an object: its key in the response and its value. -/
def completeField (schema : Schema (Resolver World)) (bindings : JsonObject)
    (object : ObjectType (Resolver World)) (record : Record) (key name : String)
    (arguments : List (String × Literal)) (selections : List Selection)
    (field : SchemaField (Resolver World))
    (complete : ObjectType (Resolver World) → Record → Execution World Json) :
    Execution World (String × Json) :=
  match field.output.objectId?, field.resolver with
  | none, _ =>
      if !selections.isEmpty then throw (.query (.scalarWithSelection name object.name))
      else do
        let given ← ofExcept (validated schema bindings field.name field.arguments arguments)
        return (key, ← resolveScalar field given record)
  | some _, some resolver => do
      return (key, ← resolveNode schema bindings field.name resolver field.arguments
        field.output arguments selections (some record) complete)
  | some id, none =>
      if !arguments.isEmpty then throw (.query (.copiedWithArguments name object.name))
      else do
        return (key, ← copyNode name object.name (JsonObject.find? record name)
          (complete (schema.object id)))

mutual

/-- Answer one selection on an object: its key in the response and its value. -/
def completeSelection (schema : Schema (Resolver World)) (bindings : JsonObject)
    (object : ObjectType (Resolver World)) (record : Record) :
    Selection → Execution World (String × Json)
  | .fragmentSpread name => throw (.query (.fragmentSpread name))
  | .inlineFragment _ _ => throw (.query .inlineFragment)
  | .field renamed name arguments selections =>
      let key := Selection.responseKey renamed name
      if name = typenameField then return (key, .string object.name)
      else
        match object.field? name with
        | none => throw (.query (.unknownField name object.name))
        | some field =>
            completeField schema bindings object record key name arguments selections field
              fun nested found => do
                return answeredObject
                  (← completeSelections schema bindings nested found selections)

/-- Answer selections on an object in order. -/
def completeSelections (schema : Schema (Resolver World)) (bindings : JsonObject)
    (object : ObjectType (Resolver World)) (record : Record) :
    List Selection → Execution World (List (String × Json))
  | [] => return []
  | selection :: rest => do
      let entry ← completeSelection schema bindings object record selection
      let entries ← completeSelections schema bindings object record rest
      return entry :: entries

end

/-- Answer a selection set on the object of a record. -/
def completeObject (schema : Schema (Resolver World)) (bindings : JsonObject)
    (selections : List Selection) (object : ObjectType (Resolver World)) (record : Record) :
    Execution World Json := do
  return answeredObject (← completeSelections schema bindings object record selections)

def rootSelection (schema : Schema (Resolver World)) (bindings : JsonObject) :
    Selection → Execution World (String × Json)
  | .fragmentSpread name => throw (.query (.fragmentSpread name))
  | .inlineFragment _ _ => throw (.query .inlineFragment)
  | .field renamed name arguments selections => do
      let key := Selection.responseKey renamed name
      if name = typenameField then return (key, .string queryTypeName)
      else
        match schema.root? name with
        | none => throw (.query (.unknownField name queryTypeName))
        | some root =>
            return (key, ← resolveNode schema bindings root.name root.resolver
              root.arguments root.output arguments selections none
              (completeObject schema bindings selections))

def rootSelections (schema : Schema (Resolver World)) (bindings : JsonObject)
    (selections : List Selection) : Execution World Json := do
  return answeredObject (← selections.mapM (rootSelection schema bindings))

end Execution

namespace Schema

variable {World : Type}

/-- What a request runs: the selections of its operation and the values of its variables. -/
def prepare (request : QueryRequest) :
    Except GraphError (List Selection × JsonObject) := do
  let document ←
    match QueryDocument.parse? request.query with
    | some document => pure document
    | none => .error (.query .malformedDocument)
  let operation ← document.selectOperation request.operationName
  let bindings ← VariableDefinition.bind operation.declared request.provided
  return (operation.selections, bindings)

def execute (schema : Schema (Resolver World)) (request : QueryRequest) :
    Execution World Json := do
  let (selections, bindings) ← Execution.ofExcept (prepare request)
  Execution.rootSelections schema bindings selections

end Schema

end NodeGraph
