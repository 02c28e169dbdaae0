import NodeGraph.Proofs.Execution.Steps
import NodeGraph.Proofs.Json.Entries

/-!
# What a response holds

What each selection of a query gives at every depth, as a relation between the progress
before and after: which resolvers are called, with what, and how the records that they
return are completed.
-/

namespace NodeGraph

variable {World : Type}

/-- The key of a selected field in the response. -/
def Selection.key? : Selection → Option String
  | .field renamed name _ _ => some (responseKey renamed name)
  | _ => none

namespace Execution

/-- A field that refers to a node and has a resolver. -/
structure NodeField (World : Type) where
  name : String
  resolver : Resolver World
  accepted : List ArgumentDefinition
  output : OutputType

/-- The resolver of a node was called with the validated arguments, the distinct names of
the selected fields and the record of the parent. -/
structure NodeCalled (schema : Schema (Resolver World)) (bindings : JsonObject)
    (node : NodeField World) (arguments : List (String × Literal))
    (selections : List Selection) (parent : Option Record) (before : Progress World)
    (id : Nat) (records : List Record) (after : Progress World) : Prop where
  target : node.output.objectId? = some id
  called : ∃ given names,
    validated schema bindings node.name node.accepted arguments = .ok given ∧
      selectedNames selections = .ok names ∧
      Called node.resolver
        { field := node.name, arguments := given, selection := names, parent }
        before records after

/-- The value of a scalar field that was resolved: for a list the value under the name in
every record, else the one in the first record, or null. -/
def scalarValue (isList : Bool) (name : String) (records : List Record) : Json :=
  let values := records.map fun record => (JsonObject.find? record name).getD .null
  if isList then .array values else values.head?.getD .null

mutual

/-- What one selection on an object gives: its key in the response with its value. -/
inductive AnswersSelection (schema : Schema (Resolver World)) (bindings : JsonObject) :
    ObjectType (Resolver World) → Record → Selection → Progress World → String × Json →
      Progress World → Prop
  | typename {object record renamed arguments selections progress} :
      AnswersSelection schema bindings object record
        (.field renamed typenameField arguments selections) progress
        (Selection.responseKey renamed typenameField, .string object.name) progress
  | scalarRead {object record renamed name arguments field given progress}
      (notTypename : name ≠ typenameField) (found : object.field? name = some field)
      (scalar : field.output.objectId? = none) (unresolved : field.resolver = none)
      (valid : validated schema bindings name field.arguments arguments = .ok given) :
      AnswersSelection schema bindings object record (.field renamed name arguments [])
        progress
        (Selection.responseKey renamed name, (JsonObject.find? record name).getD .null)
        progress
  | scalarResolved {object record renamed name arguments field resolver given records before
        after}
      (notTypename : name ≠ typenameField) (found : object.field? name = some field)
      (scalar : field.output.objectId? = none) (resolved : field.resolver = some resolver)
      (valid : validated schema bindings name field.arguments arguments = .ok given)
      (called : Called resolver
        { field := name, arguments := given, selection := [name], parent := some record }
        before records after) :
      AnswersSelection schema bindings object record (.field renamed name arguments [])
        before
        (Selection.responseKey renamed name,
          scalarValue field.output.isList name records)
        after
  | nodeResolved {object record renamed name arguments selections field resolver before value
        after}
      (notTypename : name ≠ typenameField) (found : object.field? name = some field)
      (resolved : field.resolver = some resolver)
      (answered : AnswersNode schema bindings
        ⟨name, resolver, field.arguments, field.output⟩ arguments selections (some record)
        before value after) :
      AnswersSelection schema bindings object record
        (.field renamed name arguments selections) before
        (Selection.responseKey renamed name, value) after
  | nodeAbsent {object record renamed name selections field id progress}
      (notTypename : name ≠ typenameField) (found : object.field? name = some field)
      (target : field.output.objectId? = some id) (unresolved : field.resolver = none)
      (absent : JsonObject.find? record name = none ∨
        JsonObject.find? record name = some .null) :
      AnswersSelection schema bindings object record (.field renamed name [] selections)
        progress (Selection.responseKey renamed name, .null) progress
  | nodeObject {object record renamed name selections field id nested before value after}
      (notTypename : name ≠ typenameField) (found : object.field? name = some field)
      (target : field.output.objectId? = some id) (unresolved : field.resolver = none)
      (held : JsonObject.find? record name = some (.object nested))
      (answered : AnswersObject schema bindings (schema.object id) selections nested before
        value after) :
      AnswersSelection schema bindings object record (.field renamed name [] selections)
        before (Selection.responseKey renamed name, value) after
  | nodeList {object record renamed name selections field id items before values after}
      (notTypename : name ≠ typenameField) (found : object.field? name = some field)
      (target : field.output.objectId? = some id) (unresolved : field.resolver = none)
      (held : JsonObject.find? record name = some (.array (items.map Json.object)))
      (answered : AnswersObjects schema bindings (schema.object id) selections items before
        values after) :
      AnswersSelection schema bindings object record (.field renamed name [] selections)
        before (Selection.responseKey renamed name, .array values) after

/-- What a node with a resolver gives: one object for every record in order if the output is
a list, else the object of the first record, or null. -/
inductive AnswersNode (schema : Schema (Resolver World)) (bindings : JsonObject) :
    NodeField World → List (String × Literal) → List Selection → Option Record →
      Progress World → Json → Progress World → Prop
  | list {node arguments selections parent before id records middle values after}
      (isList : node.output.isList = true)
      (called : NodeCalled schema bindings node arguments selections parent before id records
        middle)
      (answered : AnswersObjects schema bindings (schema.object id) selections records middle
        values after) :
      AnswersNode schema bindings node arguments selections parent before (.array values)
        after
  | first {node arguments selections parent before id record rest middle value after}
      (singular : node.output.isList = false)
      (called : NodeCalled schema bindings node arguments selections parent before id
        (record :: rest) middle)
      (answered : AnswersObject schema bindings (schema.object id) selections record middle
        value after) :
      AnswersNode schema bindings node arguments selections parent before value after
  | none {node arguments selections parent before id after}
      (singular : node.output.isList = false)
      (called : NodeCalled schema bindings node arguments selections parent before id []
        after) :
      AnswersNode schema bindings node arguments selections parent before .null after

/-- What a record gives under a selection set: the distinct keys of the selections in order
of first appearance, each with the value of its last selection. -/
inductive AnswersObject (schema : Schema (Resolver World)) (bindings : JsonObject) :
    ObjectType (Resolver World) → List Selection → Record → Progress World → Json →
      Progress World → Prop
  | intro {object selections record before entries fields after}
      (answered : AnswersSelections schema bindings object record selections before entries
        after)
      (keys : JsonObject.keys fields = (selections.filterMap Selection.key?).eraseDups)
      (last : JsonObject.LastWins entries fields) :
      AnswersObject schema bindings object selections record before (.object fields) after

/-- What records give under a selection set, one after another. -/
inductive AnswersObjects (schema : Schema (Resolver World)) (bindings : JsonObject) :
    ObjectType (Resolver World) → List Selection → List Record → Progress World →
      List Json → Progress World → Prop
  | nil {object selections progress} :
      AnswersObjects schema bindings object selections [] progress [] progress
  | cons {object selections record records before value middle values after}
      (first : AnswersObject schema bindings object selections record before value middle)
      (rest : AnswersObjects schema bindings object selections records middle values
        after) :
      AnswersObjects schema bindings object selections (record :: records) before
        (value :: values) after

/-- What selections on an object give, one after another. -/
inductive AnswersSelections (schema : Schema (Resolver World)) (bindings : JsonObject) :
    ObjectType (Resolver World) → Record → List Selection → Progress World →
      List (String × Json) → Progress World → Prop
  | nil {object record progress} :
      AnswersSelections schema bindings object record [] progress [] progress
  | cons {object record selection selections before entry middle entries after}
      (first : AnswersSelection schema bindings object record selection before entry middle)
      (rest : AnswersSelections schema bindings object record selections middle entries
        after) :
      AnswersSelections schema bindings object record (selection :: selections) before
        (entry :: entries) after

end

/-- What one selection on the query root gives. -/
inductive AnswersRoot (schema : Schema (Resolver World)) (bindings : JsonObject) :
    Selection → Progress World → String × Json → Progress World → Prop
  | typename {renamed arguments selections progress} :
      AnswersRoot schema bindings (.field renamed typenameField arguments selections)
        progress (Selection.responseKey renamed typenameField, .string queryTypeName)
        progress
  | node {renamed name arguments selections root before value after}
      (notTypename : name ≠ typenameField) (found : schema.root? name = some root)
      (answered : AnswersNode schema bindings
        ⟨name, root.resolver, root.arguments, root.output⟩ arguments selections none before
        value after) :
      AnswersRoot schema bindings (.field renamed name arguments selections) before
        (Selection.responseKey renamed name, value) after

inductive AnswersRoots (schema : Schema (Resolver World)) (bindings : JsonObject) :
    List Selection → Progress World → List (String × Json) → Progress World → Prop
  | nil {progress} : AnswersRoots schema bindings [] progress [] progress
  | cons {selection selections before entry middle entries after}
      (first : AnswersRoot schema bindings selection before entry middle)
      (rest : AnswersRoots schema bindings selections middle entries after) :
      AnswersRoots schema bindings (selection :: selections) before (entry :: entries) after

/-- What a whole query gives: the distinct keys of its selections in order of first
appearance, each with the value of its last selection. -/
inductive AnswersQuery (schema : Schema (Resolver World)) (bindings : JsonObject)
    (selections : List Selection) (before : Progress World) :
    Json → Progress World → Prop
  | intro {entries fields after}
      (answered : AnswersRoots schema bindings selections before entries after)
      (keys : JsonObject.keys fields = (selections.filterMap Selection.key?).eraseDups)
      (last : JsonObject.LastWins entries fields) :
      AnswersQuery schema bindings selections before (.object fields) after

variable {schema : Schema (Resolver World)} {bindings : JsonObject}

theorem AnswersSelection.key {object : ObjectType (Resolver World)} {record : Record}
    {selection : Selection} {before after : Progress World} {entry : String × Json}
    (answered : AnswersSelection schema bindings object record selection before entry
      after) :
    selection.key? = some entry.1 := by
  cases answered <;> rfl

theorem AnswersSelections.keys {object : ObjectType (Resolver World)} {record : Record} :
    ∀ {selections : List Selection} {before after : Progress World}
      {entries : List (String × Json)},
      AnswersSelections schema bindings object record selections before entries after →
        entries.map Prod.fst = selections.filterMap Selection.key?
  | _, _, _, _, .nil => rfl
  | _, _, _, _, .cons first rest => by
      rw [List.map_cons, List.filterMap_cons_some first.key, rest.keys]

theorem AnswersRoot.key {selection : Selection} {before after : Progress World}
    {entry : String × Json}
    (answered : AnswersRoot schema bindings selection before entry after) :
    selection.key? = some entry.1 := by
  cases answered <;> rfl

theorem AnswersRoots.keys {selections : List Selection} {before after : Progress World}
    {entries : List (String × Json)}
    (answered : AnswersRoots schema bindings selections before entries after) :
    entries.map Prod.fst = selections.filterMap Selection.key? := by
  induction answered with
  | nil => rfl
  | cons first _ ih => rw [List.map_cons, List.filterMap_cons_some first.key, ih]

/-- Writing the entries of the selections one after another answers the object. -/
theorem AnswersSelections.object {object : ObjectType (Resolver World)} {record : Record}
    {selections : List Selection} {before after : Progress World}
    {entries : List (String × Json)}
    (answered : AnswersSelections schema bindings object record selections before entries
      after) :
    AnswersObject schema bindings object selections record before
      (.object (JsonObject.ofEntries entries)) after := by
  refine .intro answered ?_ (JsonObject.lastWins_ofEntries entries)
  rw [JsonObject.keys_ofEntries, answered.keys]

theorem AnswersRoots.query {selections : List Selection} {before after : Progress World}
    {entries : List (String × Json)}
    (answered : AnswersRoots schema bindings selections before entries after) :
    AnswersQuery schema bindings selections before
      (.object (JsonObject.ofEntries entries)) after := by
  refine .intro answered ?_ (JsonObject.lastWins_ofEntries entries)
  rw [JsonObject.keys_ofEntries, answered.keys]

end Execution

end NodeGraph
