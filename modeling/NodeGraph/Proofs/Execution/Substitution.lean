import NodeGraph.Proofs.Execution.Conformance
import NodeGraph.Proofs.Execution.Documents
import NodeGraph.Proofs.Json.Entries

/-!
# Variables and the literals they stand for

A variable is a name for a literal.  Execution asks a literal for its value only, so a document
in which every variable is replaced by a literal with the variable's value is executed to the
same response by the same calls.
-/

namespace NodeGraph

/-- Literals for some of the variables. -/
abbrev Replacement := String → Option Literal

namespace Literal

mutual

/-- The literal with every variable replaced, at any depth; one without a replacement stays. -/
def substitute (replaced : Replacement) : Literal → Literal
  | .variable name => (replaced name).getD (.variable name)
  | .int value => .int value
  | .float value => .float value
  | .string value => .string value
  | .boolean value => .boolean value
  | .null => .null
  | .enumeration name => .enumeration name
  | .list items => .list (substituteItems replaced items)
  | .object fields => .object (substituteFields replaced fields)

def substituteItems (replaced : Replacement) : List Literal → List Literal
  | [] => []
  | item :: rest => substitute replaced item :: substituteItems replaced rest

def substituteFields (replaced : Replacement) : List (String × Literal) → List (String × Literal)
  | [] => []
  | (name, item) :: rest => (name, substitute replaced item) :: substituteFields replaced rest

end

mutual

/-- The names of the variables in a literal, at any depth. -/
def variableNames : Literal → List String
  | .variable name => [name]
  | .list items => variableNamesOfItems items
  | .object fields => variableNamesOfFields fields
  | _ => []

def variableNamesOfItems : List Literal → List String
  | [] => []
  | item :: rest => variableNames item ++ variableNamesOfItems rest

def variableNamesOfFields : List (String × Literal) → List String
  | [] => []
  | (_, item) :: rest => variableNames item ++ variableNamesOfFields rest

end

section Values

variable {bindings others : JsonObject}

mutual

/-- A literal has the value that the bindings of its own variables give it. -/
theorem toJson_congr : ∀ literal : Literal,
    (∀ name ∈ literal.variableNames,
      JsonObject.find? others name = JsonObject.find? bindings name) →
    literal.toJson others = literal.toJson bindings
  | .variable name, same => by
      rw [toJson, toJson, same name (by simp [variableNames])]
  | .int _, _ => rfl
  | .float _, _ => rfl
  | .string _, _ => rfl
  | .boolean _, _ => rfl
  | .null, _ => rfl
  | .enumeration _, _ => rfl
  | .list items, same => by
      rw [toJson, toJson, toJsonItems_congr items same]
  | .object fields, same => by
      rw [toJson, toJson, toJsonFields_congr fields same]

theorem toJsonItems_congr : ∀ items : List Literal,
    (∀ name ∈ variableNamesOfItems items,
      JsonObject.find? others name = JsonObject.find? bindings name) →
    toJsonItems others items = toJsonItems bindings items
  | [], _ => rfl
  | item :: rest, same => by
      rw [variableNamesOfItems, List.forall_mem_append] at same
      rw [toJsonItems, toJsonItems, toJson_congr item same.1, toJsonItems_congr rest same.2]

theorem toJsonFields_congr : ∀ fields : List (String × Literal),
    (∀ name ∈ variableNamesOfFields fields,
      JsonObject.find? others name = JsonObject.find? bindings name) →
    toJsonFields others fields = toJsonFields bindings fields
  | [], _ => rfl
  | (name, item) :: rest, same => by
      rw [variableNamesOfFields, List.forall_mem_append] at same
      rw [toJsonFields, toJsonFields, toJson_congr item same.1, toJsonFields_congr rest same.2]

end

mutual

/-- A literal that has a value without bindings has no variables. -/
theorem variableNames_of_toJson : ∀ {literal : Literal} {value : Json},
    literal.toJson [] = .ok value → literal.variableNames = []
  | .variable name, _, read => by simp [toJson] at read
  | .int _, _, _ => rfl
  | .float _, _, _ => rfl
  | .string _, _, _ => rfl
  | .boolean _, _, _ => rfl
  | .null, _, _ => rfl
  | .enumeration _, _, _ => rfl
  | .list items, _, read => by
      rw [toJson] at read
      cases found : toJsonItems [] items with
      | error fault =>
          rw [found] at read
          cases read
      | ok values => exact variableNames_of_toJsonItems found
  | .object fields, _, read => by
      rw [toJson] at read
      cases found : toJsonFields [] fields with
      | error fault =>
          rw [found] at read
          cases read
      | ok values => exact variableNames_of_toJsonFields found

theorem variableNames_of_toJsonItems : ∀ {items : List Literal} {values : List Json},
    toJsonItems [] items = .ok values → variableNamesOfItems items = []
  | [], _, _ => rfl
  | item :: rest, _, read => by
      rw [toJsonItems] at read
      obtain ⟨value, first, read⟩ := exists_of_bind_eq_ok read
      obtain ⟨values, later, -⟩ := exists_of_bind_eq_ok read
      rw [variableNamesOfItems, variableNames_of_toJson first,
        variableNames_of_toJsonItems later, List.append_nil]

theorem variableNames_of_toJsonFields : ∀ {fields : List (String × Literal)}
    {values : List (String × Json)},
    toJsonFields [] fields = .ok values → variableNamesOfFields fields = []
  | [], _, _ => rfl
  | (_, item) :: rest, _, read => by
      rw [toJsonFields] at read
      obtain ⟨value, first, read⟩ := exists_of_bind_eq_ok read
      obtain ⟨values, later, -⟩ := exists_of_bind_eq_ok read
      rw [variableNamesOfFields, variableNames_of_toJson first,
        variableNames_of_toJsonFields later, List.append_nil]

end

/-- A name is replaced by a literal that has the value the name is bound to. -/
def Stands (replaced : Replacement) (bindings : JsonObject) (name : String) : Prop :=
  ∃ literal value, replaced name = some literal ∧ literal.toJson [] = .ok value ∧
    JsonObject.find? bindings name = some value

variable {replaced : Replacement}

mutual

/-- A literal keeps its value when its variables are replaced. -/
theorem toJson_substitute : ∀ literal : Literal,
    (∀ name ∈ literal.variableNames, Stands replaced bindings name) →
    (literal.substitute replaced).toJson others = literal.toJson bindings
  | .variable name, stands => by
      obtain ⟨literal, value, found, read, bound⟩ := stands name (by simp [variableNames])
      have free : literal.toJson others = literal.toJson [] :=
        toJson_congr literal (by simp [variableNames_of_toJson read])
      rw [substitute, found, Option.getD_some, toJson, bound, free, read]
  | .int _, _ => rfl
  | .float _, _ => rfl
  | .string _, _ => rfl
  | .boolean _, _ => rfl
  | .null, _ => rfl
  | .enumeration _, _ => rfl
  | .list items, stands => by
      rw [substitute, toJson, toJson, toJsonItems_substitute items stands]
  | .object fields, stands => by
      rw [substitute, toJson, toJson, toJsonFields_substitute fields stands]

theorem toJsonItems_substitute : ∀ items : List Literal,
    (∀ name ∈ variableNamesOfItems items, Stands replaced bindings name) →
    toJsonItems others (substituteItems replaced items) = toJsonItems bindings items
  | [], _ => rfl
  | item :: rest, stands => by
      rw [variableNamesOfItems, List.forall_mem_append] at stands
      rw [substituteItems, toJsonItems, toJsonItems, toJson_substitute item stands.1,
        toJsonItems_substitute rest stands.2]

theorem toJsonFields_substitute : ∀ fields : List (String × Literal),
    (∀ name ∈ variableNamesOfFields fields, Stands replaced bindings name) →
    toJsonFields others (substituteFields replaced fields) = toJsonFields bindings fields
  | [], _ => rfl
  | (name, item) :: rest, stands => by
      rw [variableNamesOfFields, List.forall_mem_append] at stands
      rw [substituteFields, toJsonFields, toJsonFields, toJson_substitute item stands.1,
        toJsonFields_substitute rest stands.2]

end

mutual

/-- No variable is left in a literal whose variables stand for values. -/
theorem variableNames_substitute : ∀ literal : Literal,
    (∀ name ∈ literal.variableNames, Stands replaced bindings name) →
    (literal.substitute replaced).variableNames = []
  | .variable name, stands => by
      obtain ⟨literal, value, found, read, -⟩ := stands name (by simp [variableNames])
      rw [substitute, found, Option.getD_some, variableNames_of_toJson read]
  | .int _, _ => rfl
  | .float _, _ => rfl
  | .string _, _ => rfl
  | .boolean _, _ => rfl
  | .null, _ => rfl
  | .enumeration _, _ => rfl
  | .list items, stands => by
      rw [substitute, variableNames, variableNames_substituteItems items stands]
  | .object fields, stands => by
      rw [substitute, variableNames, variableNames_substituteFields fields stands]

theorem variableNames_substituteItems : ∀ items : List Literal,
    (∀ name ∈ variableNamesOfItems items, Stands replaced bindings name) →
    variableNamesOfItems (substituteItems replaced items) = []
  | [], _ => rfl
  | item :: rest, stands => by
      rw [variableNamesOfItems, List.forall_mem_append] at stands
      rw [substituteItems, variableNamesOfItems, variableNames_substitute item stands.1,
        variableNames_substituteItems rest stands.2, List.append_nil]

theorem variableNames_substituteFields : ∀ fields : List (String × Literal),
    (∀ name ∈ variableNamesOfFields fields, Stands replaced bindings name) →
    variableNamesOfFields (substituteFields replaced fields) = []
  | [], _ => rfl
  | (name, item) :: rest, stands => by
      rw [variableNamesOfFields, List.forall_mem_append] at stands
      rw [substituteFields, variableNamesOfFields, variableNames_substitute item stands.1,
        variableNames_substituteFields rest stands.2, List.append_nil]

end

end Values

end Literal

namespace Selection

mutual

/-- The selection with the variables of every argument replaced, at any depth. -/
def substitute (replaced : Replacement) : Selection → Selection
  | .field renamed name arguments selections =>
      .field renamed name (Literal.substituteFields replaced arguments)
        (substituteAll replaced selections)
  | .fragmentSpread name => .fragmentSpread name
  | .inlineFragment typeCondition selections =>
      .inlineFragment typeCondition (substituteAll replaced selections)

def substituteAll (replaced : Replacement) : List Selection → List Selection
  | [] => []
  | selection :: rest => substitute replaced selection :: substituteAll replaced rest

end

mutual

/-- The names of the variables in a selection, at any depth. -/
def variableNames : Selection → List String
  | .field _ _ arguments selections =>
      Literal.variableNamesOfFields arguments ++ variableNamesOfAll selections
  | .fragmentSpread _ => []
  | .inlineFragment _ selections => variableNamesOfAll selections

def variableNamesOfAll : List Selection → List String
  | [] => []
  | selection :: rest => variableNames selection ++ variableNamesOfAll rest

end

variable {replaced : Replacement} {bindings : JsonObject}

mutual

theorem variableNames_substitute : ∀ selection : Selection,
    (∀ name ∈ selection.variableNames, Literal.Stands replaced bindings name) →
    (selection.substitute replaced).variableNames = []
  | .field _ _ arguments selections, stands => by
      rw [variableNames, List.forall_mem_append] at stands
      rw [substitute, variableNames, Literal.variableNames_substituteFields arguments stands.1,
        variableNames_substituteAll selections stands.2, List.append_nil]
  | .fragmentSpread _, _ => rfl
  | .inlineFragment _ selections, stands => by
      rw [substitute, variableNames, variableNames_substituteAll selections stands]

theorem variableNames_substituteAll : ∀ selections : List Selection,
    (∀ name ∈ variableNamesOfAll selections, Literal.Stands replaced bindings name) →
    variableNamesOfAll (substituteAll replaced selections) = []
  | [], _ => rfl
  | selection :: rest, stands => by
      rw [variableNamesOfAll, List.forall_mem_append] at stands
      rw [substituteAll, variableNamesOfAll, variableNames_substitute selection stands.1,
        variableNames_substituteAll rest stands.2, List.append_nil]

end

theorem isEmpty_substituteAll (selections : List Selection) :
    (substituteAll replaced selections).isEmpty = selections.isEmpty := by
  cases selections <;> rfl

theorem isEmpty_substituteFields (arguments : List (String × Literal)) :
    (Literal.substituteFields replaced arguments).isEmpty = arguments.isEmpty := by
  cases arguments <;> rfl

end Selection

namespace Execution

variable {World : Type} {schema : Schema (Resolver World)} {bindings others : JsonObject}
  {replaced : Replacement}

theorem mapM_fieldName_substituteAll (selections : List Selection) :
    (Selection.substituteAll replaced selections).mapM fieldName = selections.mapM fieldName := by
  induction selections with
  | nil => rfl
  | cons selection rest ih =>
      have same : fieldName (selection.substitute replaced) = fieldName selection := by
        cases selection <;> rfl
      rw [Selection.substituteAll, List.mapM_cons, List.mapM_cons, same, ih]

theorem selectedNames_substituteAll (selections : List Selection) :
    selectedNames (Selection.substituteAll replaced selections) = selectedNames selections := by
  rw [selectedNames, selectedNames, mapM_fieldName_substituteAll]

theorem validated_substitute {field : String} {accepted : List ArgumentDefinition}
    {arguments : List (String × Literal)}
    (stands : ∀ name ∈ Literal.variableNamesOfFields arguments,
      Literal.Stands replaced bindings name) :
    validated schema others field accepted (Literal.substituteFields replaced arguments) =
      validated schema bindings field accepted arguments := by
  rw [validated, validated, Literal.toJsonFields_substitute arguments stands]

section Fields

variable {arguments : List (String × Literal)} {selections : List Selection}
  (stands : ∀ name ∈ Literal.variableNamesOfFields arguments,
    Literal.Stands replaced bindings name)

include stands

theorem resolveNode_substitute {field : String} {resolver : Resolver World}
    {accepted : List ArgumentDefinition} {output : OutputType} {parent : Option Record}
    {complete : ObjectType (Resolver World) → Record → Execution World Json} :
    resolveNode schema others field resolver accepted output
        (Literal.substituteFields replaced arguments)
        (Selection.substituteAll replaced selections) parent complete =
      resolveNode schema bindings field resolver accepted output arguments selections parent
        complete := by
  rw [resolveNode, resolveNode, validated_substitute stands, selectedNames_substituteAll]

theorem completeField_substitute {object : ObjectType (Resolver World)} {record : Record}
    {key name : String} {field : SchemaField (Resolver World)}
    {complete : ObjectType (Resolver World) → Record → Execution World Json} :
    completeField schema others object record key name
        (Literal.substituteFields replaced arguments)
        (Selection.substituteAll replaced selections) field complete =
      completeField schema bindings object record key name arguments selections field
        complete := by
  simp only [completeField, validated_substitute stands, resolveNode_substitute stands,
    Selection.isEmpty_substituteAll, Selection.isEmpty_substituteFields]

end Fields

mutual

theorem completeSelection_substitute : ∀ (selection : Selection)
    (object : ObjectType (Resolver World)) (record : Record),
    (∀ name ∈ selection.variableNames, Literal.Stands replaced bindings name) →
    completeSelection schema others object record (selection.substitute replaced) =
      completeSelection schema bindings object record selection
  | .fragmentSpread _, _, _, _ => by
      rw [Selection.substitute, completeSelection, completeSelection]
  | .inlineFragment _ _, _, _, _ => by
      rw [Selection.substitute, completeSelection, completeSelection]
  | .field renamed name arguments selections, object, record, stands => by
      rw [Selection.variableNames, List.forall_mem_append] at stands
      have below : ∀ nested found,
          completeSelections schema others nested found
              (Selection.substituteAll replaced selections) =
            completeSelections schema bindings nested found selections :=
        fun nested found => completeSelections_substitute selections nested found stands.2
      simp only [Selection.substitute, completeSelection, below,
        completeField_substitute stands.1]

theorem completeSelections_substitute : ∀ (selections : List Selection)
    (object : ObjectType (Resolver World)) (record : Record),
    (∀ name ∈ Selection.variableNamesOfAll selections, Literal.Stands replaced bindings name) →
    completeSelections schema others object record (Selection.substituteAll replaced selections) =
      completeSelections schema bindings object record selections
  | [], _, _, _ => by
      rw [Selection.substituteAll, completeSelections, completeSelections]
  | selection :: rest, object, record, stands => by
      rw [Selection.variableNamesOfAll, List.forall_mem_append] at stands
      rw [Selection.substituteAll, completeSelections, completeSelections,
        completeSelection_substitute selection object record stands.1,
        completeSelections_substitute rest object record stands.2]

end

theorem rootSelection_substitute (selection : Selection)
    (stands : ∀ name ∈ selection.variableNames, Literal.Stands replaced bindings name) :
    rootSelection schema others (selection.substitute replaced) =
      rootSelection schema bindings selection := by
  cases selection with
  | fragmentSpread name => rfl
  | inlineFragment typeCondition selections => rfl
  | field renamed name arguments selections =>
      rw [Selection.variableNames, List.forall_mem_append] at stands
      have below : completeObject schema others (Selection.substituteAll replaced selections) =
          completeObject schema bindings selections := by
        funext object record
        rw [completeObject, completeObject,
          completeSelections_substitute selections object record stands.2]
      simp only [Selection.substitute, rootSelection, below, resolveNode_substitute stands.1]

theorem rootSelections_substitute {selections : List Selection}
    (stands : ∀ name ∈ Selection.variableNamesOfAll selections,
      Literal.Stands replaced bindings name) :
    rootSelections schema others (Selection.substituteAll replaced selections) =
      rootSelections schema bindings selections := by
  have each : (Selection.substituteAll replaced selections).mapM (rootSelection schema others) =
      selections.mapM (rootSelection schema bindings) := by
    induction selections with
    | nil => rw [Selection.substituteAll, List.mapM_nil, List.mapM_nil]
    | cons selection rest ih =>
        rw [Selection.variableNamesOfAll, List.forall_mem_append] at stands
        rw [Selection.substituteAll, List.mapM_cons, List.mapM_cons,
          rootSelection_substitute selection stands.1, ih stands.2]
  rw [rootSelections, rootSelections, each]

end Execution

/-- The operation with every variable replaced, except in the declarations. -/
def QueryOperation.substitute (replaced : Replacement) (operation : QueryOperation) :
    QueryOperation :=
  operation.mapSelections (Selection.substituteAll replaced)

def QueryDocument.substitute (replaced : Replacement) (document : QueryDocument) :
    QueryDocument :=
  document.mapSelections (Selection.substituteAll replaced)

namespace VariableDefinition

theorem bind_congr {definitions : List VariableDefinition} {provided others : JsonObject}
    (agree : ∀ definition ∈ definitions,
      JsonObject.find? others definition.name = JsonObject.find? provided definition.name) :
    bind definitions others = bind definitions provided := by
  have entries : definitions.mapM (fun definition : VariableDefinition => do
        return (definition.name, ← definition.value others)) =
      definitions.mapM fun definition : VariableDefinition => do
        return (definition.name, ← definition.value provided) := by
    induction definitions with
    | nil => rfl
    | cons definition rest ih =>
        rw [List.forall_mem_cons] at agree
        have same : definition.value others = definition.value provided := by
          rw [value, value, agree.1]
        rw [List.mapM_cons, List.mapM_cons, same, ih agree.2]
  rw [bind, bind, entries]

theorem names_of_mapM {definitions : List VariableDefinition} {provided : JsonObject}
    {entries : List (String × Json)}
    (valued : definitions.mapM (fun definition : VariableDefinition => do
      return (definition.name, ← definition.value provided)) = .ok entries) :
    entries.map Prod.fst = definitions.map name := by
  induction definitions generalizing entries with
  | nil =>
      cases valued
      rfl
  | cons definition rest ih =>
      rw [List.mapM_cons] at valued
      obtain ⟨entry, first, valued⟩ := exists_of_bind_eq_ok valued
      obtain ⟨others, later, same⟩ := exists_of_bind_eq_ok valued
      obtain ⟨value, -, given⟩ := exists_of_bind_eq_ok first
      cases same
      cases given
      rw [List.map_cons, List.map_cons, ih later]

/-- A variable is bound to the value of its last declaration. -/
theorem find?_of_bind {front back : List VariableDefinition} {definition : VariableDefinition}
    {provided bindings : JsonObject}
    (bound : bind (front ++ definition :: back) provided = .ok bindings)
    (last : definition.name ∉ back.map name) :
    ∃ value, definition.value provided = .ok value ∧
      JsonObject.find? bindings definition.name = some value := by
  obtain ⟨entries, valued, same⟩ := exists_of_bind_eq_ok bound
  cases same
  rw [List.mapM_append] at valued
  obtain ⟨before, -, valued⟩ := exists_of_bind_eq_ok valued
  obtain ⟨after, rest, same⟩ := exists_of_bind_eq_ok valued
  cases same
  rw [List.mapM_cons] at rest
  obtain ⟨entry, first, rest⟩ := exists_of_bind_eq_ok rest
  obtain ⟨later, others, same⟩ := exists_of_bind_eq_ok rest
  obtain ⟨value, found, given⟩ := exists_of_bind_eq_ok first
  cases same
  cases given
  refine ⟨value, found, JsonObject.lastWins_ofEntries _ before _ value later rfl ?_⟩
  rwa [names_of_mapM others]

end VariableDefinition

/-- The names of the variables that an operation uses. -/
def QueryOperation.variableNames (operation : QueryOperation) : List String :=
  Selection.variableNamesOfAll operation.selections

namespace Schema

variable {World : Type}

/-- A variable stands for every literal that has its value: with these literals in place of its
variables an operation is executed to the same outcome, by the same calls.  Only the variables
that it declares are asked for, each by its last declaration. -/
theorem variables_stand_for_literals (schema : Schema (Resolver World)) {request : QueryRequest}
    {document : QueryDocument} {operation : QueryOperation} {bindings : JsonObject}
    (parsed : QueryDocument.parse? request.query = some document)
    (selected : document.selectOperation request.operationName = .ok operation)
    (bound : VariableDefinition.bind operation.declared request.provided = .ok bindings)
    (declared : ∀ name ∈ operation.variableNames,
      name ∈ operation.declared.map VariableDefinition.name) :
    (∀ front definition back, operation.declared = front ++ definition :: back →
      definition.name ∉ back.map VariableDefinition.name →
      ∃ value, definition.value request.provided = .ok value ∧
        JsonObject.find? bindings definition.name = some value) ∧
    (∀ replaced : Replacement,
      (∀ definition ∈ operation.declared,
        Literal.Stands replaced bindings definition.name) →
      (document.substitute replaced).selectOperation request.operationName =
        .ok (operation.substitute replaced) ∧
      (operation.substitute replaced).variableNames = [] ∧
      schema.executeDocument (document.substitute replaced) request.operationName
        request.provided = schema.execute request ∧
      ∀ other : QueryRequest,
        QueryDocument.parse? other.query = some (document.substitute replaced) →
        other.operationName = request.operationName →
        (∃ bindings, VariableDefinition.bind operation.declared other.provided = .ok bindings) →
        schema.execute other = schema.execute request) ∧
    ∀ provided,
      (∀ definition ∈ operation.declared,
        JsonObject.find? provided definition.name =
          JsonObject.find? request.provided definition.name) →
      schema.execute { request with provided } = schema.execute request := by
  refine ⟨?_, fun replaced stands => ?_, fun provided agree => ?_⟩
  · intro front definition back split last
    rw [split] at bound
    exact VariableDefinition.find?_of_bind bound last
  · have used : ∀ name ∈ operation.variableNames, Literal.Stands replaced bindings name := by
      intro name member
      obtain ⟨definition, among, rfl⟩ := List.mem_map.mp (declared name member)
      exact stands definition among
    have chosen : (document.substitute replaced).selectOperation request.operationName =
        .ok (operation.substitute replaced) := by
      rw [QueryDocument.substitute, QueryDocument.selectOperation_mapSelections, selected]
      rfl
    have same : ∀ provided others,
        VariableDefinition.bind operation.declared provided = .ok others →
        schema.executeDocument (document.substitute replaced) request.operationName provided =
          schema.execute request := by
      intro provided others boundToo
      rw [execute_eq_executeDocument schema parsed, executeDocument_of_selected schema chosen,
        executeDocument_of_selected schema selected, bound]
      have kept : (operation.substitute replaced).declared = operation.declared := rfl
      rw [kept, boundToo]
      exact Execution.rootSelections_substitute used
    refine ⟨chosen, Selection.variableNames_substituteAll _ used, same _ _ bound, ?_⟩
    rintro other read named ⟨others, boundToo⟩
    rw [execute_eq_executeDocument schema read, named]
    exact same _ _ boundToo
  · have parsedToo : QueryDocument.parse? { request with provided }.query = some document := by
      rw [← parsed]
    rw [execute_eq_executeDocument schema parsed, execute_eq_executeDocument schema parsedToo,
      executeDocument_of_selected schema selected, executeDocument_of_selected schema selected,
      VariableDefinition.bind_congr agree]

end Schema

namespace Library

/-- A request for so many authors, counted by a variable, from the first on by default. -/
def counted : QueryRequest where
  query := "query ($count: Int, $first: Int = 0) " ++
    "\x7b authors(limit: \x7bcount: $count, offset: $first\x7d) \x7b name \x7d \x7d"
  provided := [("count", Json.ofInt 1), ("shelf", .string "hall")]

/-- The same request with the numbers in place of the variables. -/
def plain : QueryRequest where
  query := "query ($count: Int, $first: Int = 0) " ++
    "\x7b authors(limit: \x7bcount: 1, offset: 0\x7d) \x7b name \x7d \x7d"

def window (count first : Literal) : List Selection :=
  [.field none "authors" [("limit", .object [("count", count), ("offset", first)])]
    [.field none "name" [] []]]

/-- The tokens of such a request, whose window is written in some way. -/
def windowTokens (count first : List Token) : List Token :=
  [.name "query", .punctuator '(', .punctuator '$', .name "count", .punctuator ':', .name "Int",
      .punctuator '$', .name "first", .punctuator ':', .name "Int", .punctuator '=', .int 0,
      .punctuator ')', .punctuator '\x7b', .name "authors", .punctuator '(', .name "limit",
      .punctuator ':', .punctuator '\x7b', .name "count", .punctuator ':'] ++
    count ++ [.name "offset", .punctuator ':'] ++ first ++
    [.punctuator '\x7d', .punctuator ')', .punctuator '\x7b', .name "name", .punctuator '\x7d',
      .punctuator '\x7d']

def declared : List VariableDefinition := [⟨"count", none⟩, ⟨"first", some (.int 0)⟩]

def numbers : Replacement := fun name =>
  if name = "count" then some (.int 1) else if name = "first" then some (.int 0) else none

theorem counted_as_plain :
    library.execute plain = library.execute counted ∧
      library.execute { counted with provided := [("count", Json.ofInt 1)] } =
        library.execute counted := by
  have divided : Token.tokenize? counted.query =
      some (windowTokens [.punctuator '$', .name "count"] [.punctuator '$', .name "first"]) := by
    decide +kernel
  have parsed : QueryDocument.parse? counted.query =
      some [.operation .query none declared (window (.variable "count") (.variable "first"))] := by
    rw [QueryDocument.parse?_of_tokenize? divided]
    rfl
  have dividedPlain : Token.tokenize? plain.query = some (windowTokens [.int 1] [.int 0]) := by
    decide +kernel
  have parsedPlain : QueryDocument.parse? plain.query =
      some [.operation .query none declared (window (.int 1) (.int 0))] := by
    rw [QueryDocument.parse?_of_tokenize? dividedPlain]
    rfl
  have bound : VariableDefinition.bind declared counted.provided =
      .ok [("count", Json.ofInt 1), ("first", Json.ofInt 0)] := rfl
  obtain ⟨-, replace, ignore⟩ :=
    library.variables_stand_for_literals parsed rfl bound (by decide)
  constructor
  · refine (replace numbers ?_).2.2.2 plain parsedPlain rfl ⟨_, rfl⟩
    simp only [declared, List.forall_mem_cons]
    exact ⟨⟨.int 1, _, rfl, rfl, rfl⟩, ⟨.int 0, _, rfl, rfl, rfl⟩, by simp⟩
  · refine ignore _ ?_
    simp only [declared, List.forall_mem_cons]
    exact ⟨rfl, rfl, by simp⟩

end Library

end NodeGraph
