import NodeGraph.Proofs.Execution.Conformance

/-!
# Calls of a query

The resolvers that a query calls are those met on a walk over its selections, depth first
and in document order, with one round of the selections of a field for each record that is
completed.  A call is told the field, the arguments of its own selection, the fields that are
asked for below it and the record that is being completed.
-/

namespace NodeGraph

variable {World : Type}

/-- A call of a resolver: what it was told and the records that it returned. -/
structure ResolverCall (World : Type) where
  resolver : Resolver World
  params : ResolveParams
  records : List Record

/-- Calls that were made one after another, each in the state that the one before it left. -/
inductive Made : Progress World → List (ResolverCall World) → Progress World → Prop
  | nil {progress : Progress World} : Made progress [] progress
  | cons {call : ResolverCall World} {calls : List (ResolverCall World)}
      {before middle after : Progress World}
      (first : Called call.resolver call.params before call.records middle)
      (rest : Made middle calls after) : Made before (call :: calls) after

namespace Made

theorem single {resolver : Resolver World} {params : ResolveParams} {records : List Record}
    {before after : Progress World} (called : Called resolver params before records after) :
    Made before [⟨resolver, params, records⟩] after :=
  .cons called .nil

theorem append {first second : List (ResolverCall World)}
    {before middle after : Progress World} (front : Made before first middle)
    (back : Made middle second after) : Made before (first ++ second) after := by
  induction front with
  | nil => exact back
  | cons called _ ih => exact .cons called (ih back)

theorem calls_eq {calls : List (ResolverCall World)} {before after : Progress World}
    (made : Made before calls after) :
    after.calls = before.calls ++ calls.map ResolverCall.params := by
  induction made with
  | nil => rw [List.map_nil, List.append_nil]
  | cons called _ ih =>
      rw [ih, called.recorded, List.append_assoc, List.map_cons, List.singleton_append]

end Made

/-- The name of a selected field, whatever its key in the response. -/
def Selection.name? : Selection → Option String
  | .field _ name _ _ => some name
  | _ => none

/-- The distinct names of the selected fields in order of first appearance, without the one
that stands for the name of the type. -/
def Selection.requested (selections : List Selection) : List String :=
  ((selections.filterMap Selection.name?).filter fun name => name != typenameField).eraseDups

/-- The records that are completed: all of them for a list, only the first one otherwise. -/
def completedRecords (isList : Bool) (records : List Record) : List Record :=
  if isList then records else records.take 1

/-- The objects in a value that a record holds. -/
def heldRecords : Option Json → List Record
  | some (.object fields) => [fields]
  | some (.array items) => items.filterMap fun item =>
      match item with
      | .object fields => some fields
      | _ => none
  | _ => []

theorem heldRecords_array (records : List Record) :
    heldRecords (some (.array (records.map Json.object))) = records := by
  rw [heldRecords, List.filterMap_map]
  exact List.filterMap_some

theorem Schema.name_of_root? {R : Type} {schema : Schema R} {name : String}
    {root : RootField R} (found : schema.root? name = some root) : root.name = name := by
  simpa using List.find?_some found

namespace Execution

mutual

/-- The calls of one selection on the object of a record. -/
inductive WalksSelection (schema : Schema (Resolver World)) (bindings : JsonObject) :
    ObjectType (Resolver World) → Record → Selection → List (ResolverCall World) → Prop
  | typename {object record renamed arguments selections} :
      WalksSelection schema bindings object record
        (.field renamed typenameField arguments selections) []
  | scalarRead {object record renamed name arguments field}
      (notTypename : name ≠ typenameField) (found : object.field? name = some field)
      (scalar : field.output.objectId? = none) (unresolved : field.resolver = none) :
      WalksSelection schema bindings object record (.field renamed name arguments []) []
  | scalarResolved {object record renamed name arguments field resolver given records}
      (notTypename : name ≠ typenameField) (found : object.field? name = some field)
      (scalar : field.output.objectId? = none) (resolved : field.resolver = some resolver)
      (valid : validated schema bindings field.name field.arguments arguments = .ok given) :
      WalksSelection schema bindings object record (.field renamed name arguments [])
        [{ resolver
           params :=
             { field := field.name
               arguments := given
               selection := [field.name]
               parent := some record }
           records }]
  | nodeResolved {object record renamed name arguments selections field id resolver given
        records calls}
      (notTypename : name ≠ typenameField) (found : object.field? name = some field)
      (target : field.output.objectId? = some id) (resolved : field.resolver = some resolver)
      (valid : validated schema bindings field.name field.arguments arguments = .ok given)
      (below : WalksRecords schema bindings (schema.object id) selections
        (completedRecords field.output.isList records) calls) :
      WalksSelection schema bindings object record
        (.field renamed name arguments selections)
        ({ resolver
           params :=
             { field := field.name
               arguments := given
               selection := Selection.requested selections
               parent := some record }
           records } :: calls)
  | nodeCopied {object record renamed name selections field id calls}
      (notTypename : name ≠ typenameField) (found : object.field? name = some field)
      (target : field.output.objectId? = some id) (unresolved : field.resolver = none)
      (below : WalksRecords schema bindings (schema.object id) selections
        (heldRecords (JsonObject.find? record name)) calls) :
      WalksSelection schema bindings object record (.field renamed name [] selections) calls

/-- The calls of a selection set on the object of a record, selection by selection. -/
inductive WalksSelections (schema : Schema (Resolver World)) (bindings : JsonObject) :
    ObjectType (Resolver World) → Record → List Selection → List (ResolverCall World) → Prop
  | nil {object record} : WalksSelections schema bindings object record [] []
  | cons {object record selection selections calls others}
      (first : WalksSelection schema bindings object record selection calls)
      (rest : WalksSelections schema bindings object record selections others) :
      WalksSelections schema bindings object record (selection :: selections)
        (calls ++ others)

/-- The calls of a selection set on several records, record by record. -/
inductive WalksRecords (schema : Schema (Resolver World)) (bindings : JsonObject) :
    ObjectType (Resolver World) → List Selection → List Record → List (ResolverCall World) →
      Prop
  | nil {object selections} : WalksRecords schema bindings object selections [] []
  | cons {object selections record records calls others}
      (first : WalksSelections schema bindings object record selections calls)
      (rest : WalksRecords schema bindings object selections records others) :
      WalksRecords schema bindings object selections (record :: records) (calls ++ others)

end

/-- The calls of the selections on the query root: each one calls the resolver of its root
field, without a parent, and goes on below the records that are completed. -/
inductive WalksRoots (schema : Schema (Resolver World)) (bindings : JsonObject) :
    List Selection → List (ResolverCall World) → Prop
  | nil : WalksRoots schema bindings [] []
  | typename {renamed arguments below selections calls}
      (rest : WalksRoots schema bindings selections calls) :
      WalksRoots schema bindings (.field renamed typenameField arguments below :: selections)
        calls
  | root {renamed name arguments below selections root id given records calls others}
      (notTypename : name ≠ typenameField) (found : schema.root? name = some root)
      (target : root.output.objectId? = some id)
      (valid : validated schema bindings root.name root.arguments arguments = .ok given)
      (walked : WalksRecords schema bindings (schema.object id) below
        (completedRecords root.output.isList records) calls)
      (rest : WalksRoots schema bindings selections others) :
      WalksRoots schema bindings (.field renamed name arguments below :: selections)
        ({ resolver := root.resolver
           params :=
             { field := root.name
               arguments := given
               selection := Selection.requested below
               parent := none }
           records } :: calls ++ others)

theorem filterMap_name?_of_mapM {selections : List Selection} {names : List String}
    (read : selections.mapM fieldName = .ok names) :
    selections.filterMap Selection.name? = names := by
  induction selections generalizing names with
  | nil =>
      cases read
      rfl
  | cons selection rest ih =>
      rw [List.mapM_cons] at read
      cases selection with
      | field renamed name arguments below =>
          cases others : rest.mapM fieldName with
          | error fault =>
              simp only [fieldName, others] at read
              cases read
          | ok found =>
              simp only [fieldName, others] at read
              cases read
              simp only [List.filterMap_cons, Selection.name?, ih others]
      | _ => cases read

theorem requested_of_selectedNames {selections : List Selection} {names : List String}
    (selected : selectedNames selections = .ok names) :
    names = Selection.requested selections := by
  unfold selectedNames at selected
  cases read : selections.mapM fieldName with
  | error fault =>
      rw [read] at selected
      cases selected
  | ok all =>
      rw [read] at selected
      cases selected
      rw [Selection.requested, filterMap_name?_of_mapM read]

section Walks

variable {schema : Schema (Resolver World)} {bindings : JsonObject}

theorem walksRecords_of_answersObjects {object : ObjectType (Resolver World)}
    {selections : List Selection}
    (each : ∀ record before value after,
      AnswersObject schema bindings object selections record before value after →
        ∃ calls, WalksSelections schema bindings object record selections calls ∧
          Made before calls after)
    {records : List Record} {before after : Progress World} {values : List Json}
    (answered : AnswersObjects schema bindings object selections records before values after) :
    ∃ calls, WalksRecords schema bindings object selections records calls ∧
      Made before calls after := by
  induction records generalizing before values with
  | nil =>
      cases answered
      exact ⟨[], .nil, .nil⟩
  | cons record records ih =>
      cases answered with
      | cons first rest =>
          obtain ⟨calls, walked, made⟩ := each _ _ _ _ first
          obtain ⟨others, walkedRest, madeRest⟩ := ih rest
          exact ⟨calls ++ others, .cons walked walkedRest, made.append madeRest⟩

/-- A resolved node makes its own call and then those below the completed records. -/
theorem walksRecords_of_answersNode {node : NodeField World}
    {arguments : List (String × Literal)} {selections : List Selection}
    {parent : Option Record}
    (each : ∀ object record before value after,
      AnswersObject schema bindings object selections record before value after →
        ∃ calls, WalksSelections schema bindings object record selections calls ∧
          Made before calls after)
    {before after : Progress World} {value : Json}
    (answered : AnswersNode schema bindings node arguments selections parent before value
      after) :
    ∃ id given records calls, node.output.objectId? = some id ∧
      validated schema bindings node.name node.accepted arguments = .ok given ∧
      WalksRecords schema bindings (schema.object id) selections
        (completedRecords node.output.isList records) calls ∧
      Made before
        ({ resolver := node.resolver
           params :=
             { field := node.name
               arguments := given
               selection := Selection.requested selections
               parent }
           records } :: calls) after := by
  cases answered with
  | list isList called objects =>
      obtain ⟨target, given, names, valid, selected, called⟩ := called
      obtain rfl := requested_of_selectedNames selected
      obtain ⟨calls, walked, made⟩ := walksRecords_of_answersObjects (each _) objects
      refine ⟨_, given, _, calls, target, valid, ?_, .cons called made⟩
      rw [completedRecords, isList, if_pos rfl]
      exact walked
  | first singular called object =>
      obtain ⟨target, given, names, valid, selected, called⟩ := called
      obtain rfl := requested_of_selectedNames selected
      obtain ⟨calls, walked, made⟩ := each _ _ _ _ _ object
      refine ⟨_, given, _, calls ++ [], target, valid, ?_, .cons called ?_⟩
      · rw [completedRecords, singular, if_neg Bool.false_ne_true]
        exact .cons walked .nil
      · exact made.append .nil
  | none singular called =>
      obtain ⟨target, given, names, valid, selected, called⟩ := called
      obtain rfl := requested_of_selectedNames selected
      refine ⟨_, given, [], [], target, valid, ?_, .single called⟩
      rw [completedRecords, singular, if_neg Bool.false_ne_true]
      exact .nil

theorem walksSelections_of_answersObject {object : ObjectType (Resolver World)}
    {selections : List Selection} {record : Record}
    (each : ∀ before entries after,
      AnswersSelections schema bindings object record selections before entries after →
        ∃ calls, WalksSelections schema bindings object record selections calls ∧
          Made before calls after)
    {before after : Progress World} {value : Json}
    (answered : AnswersObject schema bindings object selections record before value after) :
    ∃ calls, WalksSelections schema bindings object record selections calls ∧
      Made before calls after := by
  cases answered with
  | intro answered _ _ => exact each _ _ _ answered

/-- A selection that is answered makes its calls if the selections below it do. -/
theorem walksSelection_of_answers_below {object : ObjectType (Resolver World)}
    {record : Record} {renamed : Option String} {name : String}
    {arguments : List (String × Literal)} {selections : List Selection}
    (each : ∀ object record before value after,
      AnswersObject schema bindings object selections record before value after →
        ∃ calls, WalksSelections schema bindings object record selections calls ∧
          Made before calls after)
    {before after : Progress World} {entry : String × Json}
    (answered : AnswersSelection schema bindings object record
      (.field renamed name arguments selections) before entry after) :
    ∃ calls, WalksSelection schema bindings object record
        (.field renamed name arguments selections) calls ∧
      Made before calls after := by
  cases answered with
  | typename => exact ⟨[], .typename, .nil⟩
  | scalarRead notTypename found scalar unresolved _ =>
      exact ⟨[], .scalarRead notTypename found scalar unresolved, .nil⟩
  | scalarResolved notTypename found scalar resolved valid called =>
      rw [← ObjectType.name_of_field? found] at valid called
      exact ⟨_, .scalarResolved notTypename found scalar resolved valid, .single called⟩
  | nodeResolved notTypename found resolved answered =>
      rw [← ObjectType.name_of_field? found] at answered
      obtain ⟨id, given, records, calls, target, valid, walked, made⟩ :=
        walksRecords_of_answersNode each answered
      exact ⟨_, .nodeResolved notTypename found target resolved valid walked, made⟩
  | nodeAbsent notTypename found target unresolved absent =>
      refine ⟨[], .nodeCopied notTypename found target unresolved ?_, .nil⟩
      rcases absent with absent | null
      · rw [absent]
        exact .nil
      · rw [null]
        exact .nil
  | nodeObject notTypename found target unresolved held answered =>
      obtain ⟨calls, walked, made⟩ := each _ _ _ _ _ answered
      refine ⟨calls ++ [], .nodeCopied notTypename found target unresolved ?_,
        made.append .nil⟩
      rw [held]
      exact .cons walked .nil
  | nodeList notTypename found target unresolved held answered =>
      obtain ⟨calls, walked, made⟩ := walksRecords_of_answersObjects (each _) answered
      refine ⟨calls, .nodeCopied notTypename found target unresolved ?_, made⟩
      rw [held, heldRecords_array]
      exact walked

mutual

/-- What is answered was made with the calls of a walk, whatever its depth. -/
theorem walksSelection_of_answers {object : ObjectType (Resolver World)} {record : Record} :
    ∀ (selection : Selection) {before after : Progress World} {entry : String × Json},
      AnswersSelection schema bindings object record selection before entry after →
        ∃ calls, WalksSelection schema bindings object record selection calls ∧
          Made before calls after
  | .fragmentSpread _, _, _, _, answered => by cases answered
  | .inlineFragment _ _, _, _, _, answered => by cases answered
  | .field renamed name arguments selections, before, after, entry, answered => by
      refine walksSelection_of_answers_below ?_ answered
      intro object record before value after
      exact walksSelections_of_answersObject fun _ _ _ =>
        walksSelections_of_answers selections

theorem walksSelections_of_answers {object : ObjectType (Resolver World)}
    {record : Record} :
    ∀ (selections : List Selection) {before after : Progress World}
      {entries : List (String × Json)},
      AnswersSelections schema bindings object record selections before entries after →
        ∃ calls, WalksSelections schema bindings object record selections calls ∧
          Made before calls after
  | [], _, _, _, answered => by
      cases answered
      exact ⟨[], .nil, .nil⟩
  | selection :: rest, _, _, _, answered => by
      cases answered with
      | cons first second =>
          obtain ⟨calls, walked, made⟩ := walksSelection_of_answers selection first
          obtain ⟨others, walkedRest, madeRest⟩ := walksSelections_of_answers rest second
          exact ⟨calls ++ others, .cons walked walkedRest, made.append madeRest⟩

end

theorem walksRoots_of_answers {selections : List Selection} {before after : Progress World}
    {entries : List (String × Json)}
    (answered : AnswersRoots schema bindings selections before entries after) :
    ∃ calls, WalksRoots schema bindings selections calls ∧ Made before calls after := by
  induction answered with
  | nil => exact ⟨[], .nil, .nil⟩
  | cons first _ ih =>
      obtain ⟨others, walkedRest, madeRest⟩ := ih
      cases first with
      | typename => exact ⟨others, .typename walkedRest, madeRest⟩
      | node notTypename found answered =>
          rw [← Schema.name_of_root? found] at answered
          obtain ⟨id, given, records, calls, target, valid, walked, made⟩ :=
            walksRecords_of_answersNode
              (fun _ _ _ _ _ => walksSelections_of_answersObject fun _ _ _ =>
                walksSelections_of_answers _) answered
          exact ⟨_, .root notTypename found target valid walked walkedRest,
            made.append madeRest⟩

end Walks

end Execution

/-- A request that returns data has called exactly the resolvers on the walk over its
selections, in that order and each in the state that the one before it left. -/
theorem Schema.calls_follow_walk {schema : Schema (Resolver World)} {request : QueryRequest}
    {before after : Progress World} {data : Json}
    (executed : schema.execute request before = (.ok data, after)) :
    ∃ selections bindings calls, Schema.prepare request = .ok (selections, bindings) ∧
      Execution.WalksRoots schema bindings selections calls ∧ Made before calls after ∧
      after.calls = before.calls ++ calls.map ResolverCall.params := by
  have gives : Execution.Gives (schema.execute request) before data after := executed
  obtain ⟨⟨selections, bindings⟩, _, ready, gives⟩ := Execution.gives_bind.mp gives
  obtain ⟨prepared, rfl⟩ := Execution.gives_ofExcept.mp ready
  obtain ⟨entries, _, answered, returned⟩ := Execution.gives_bind.mp gives
  obtain ⟨rfl, rfl⟩ := Execution.gives_pure.mp returned
  obtain ⟨calls, walked, made⟩ :=
    Execution.walksRoots_of_answers (Execution.answersRoots_of_gives answered)
  exact ⟨selections, bindings, calls, prepared, walked, made, made.calls_eq⟩

namespace Library

/-- Shelves, whose latest volume is resolved and whose other volumes are read. -/
def shelf : ObjectType (Resolver Unit) where
  name := "Shelf"
  nodeType := "shelf"
  fields :=
    [{ name := "place", output := .scalar .string },
      { name := "latest", output := .object 1, nodeType := some "volume",
        resolver := some fun _ state =>
          (.ok [[("title", .string "Emma")], [("title", .string "Lady Susan")]], state) },
      { name := "volumes", output := .list (.object 1), nodeType := some "volume" }]
  complete := true

def shelves : Schema (Resolver Unit) where
  objects := [shelf, book]
  roots := [⟨"shelves", "shelf", .list (.object 0), [],
    fun _ state =>
      (.ok [[("place", .string "hall"), ("volumes", .array [.object [], .object []])],
        [("place", .string "attic")]], state)⟩]
  arguments := .builtIn

def shelvesRequest : QueryRequest where
  query := "\x7b s: shelves \x7b newest: latest \x7b pages __typename title \x7d " ++
    "volumes \x7b n: pages \x7d latest \x7b title again: title \x7d \x7d \x7d"

/-- The fields that are called for the request, each with what is asked for below it. -/
def shelfCalls : List (String × List String) :=
  [("shelves", ["latest", "volumes"]),
    ("latest", ["pages", "title"]), ("pages", ["pages"]),
    ("pages", ["pages"]), ("pages", ["pages"]), ("latest", ["title"]),
    ("latest", ["pages", "title"]), ("pages", ["pages"]), ("latest", ["title"])]

/-- Two shelves are completed, each with one volume of two and the volumes that it holds. -/
theorem calls_follow_shelves :
    ∃ data after selections bindings calls,
      shelves.execute shelvesRequest start = (.ok data, after) ∧
      Schema.prepare shelvesRequest = .ok (selections, bindings) ∧
      Execution.WalksRoots shelves bindings selections calls ∧ Made start calls after ∧
      (calls.map fun call => (call.params.field, call.params.selection)) =
        shelfCalls := by
  have shown : ((shelves.execute shelvesRequest start).1.isOk,
      (shelves.execute shelvesRequest start).2.calls.map fun params =>
        (params.field, params.selection)) =
      (true, shelfCalls) := by
    decide +kernel
  rcases executed : shelves.execute shelvesRequest start with ⟨fault | data, after⟩
  · rw [executed] at shown
    cases shown
  · rw [executed] at shown
    obtain ⟨selections, bindings, calls, prepared, walked, made, recorded⟩ :=
      Schema.calls_follow_walk executed
    have fields := (Prod.mk.inj shown).2
    rw [recorded, start, List.nil_append, List.map_map] at fields
    exact ⟨data, after, selections, bindings, calls, rfl, prepared, walked, made, fields⟩

end Library

end NodeGraph
