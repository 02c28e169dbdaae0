import NodeGraph.Proofs.Execution.Steps

/-!
# Steps that fail

What it takes for a step of execution to end with an error, and what an error leaves behind.
Everything that is read off the document alone fails with a fault of the query.  An execution is
composed of what is read off the document, of validated arguments and of calls of resolvers, which
is shown once for all of its functions.  So calls that were made are never taken back, whether the
steps after them succeed or not, and an error that none of the computations between the calls
raises is one that the last call has ended with.
-/

namespace NodeGraph

section Within

variable {α β : Type}

/-- A computation fails with allowed errors only. -/
def FaultsWithin (allowed : GraphError → Prop) (result : Except GraphError α) : Prop :=
  ∀ fault, result = .error fault → allowed fault

namespace FaultsWithin

variable {allowed : GraphError → Prop}

theorem ok (value : α) : FaultsWithin allowed (.ok value) := by
  intro fault failed
  cases failed

theorem error {fault : GraphError} (within : allowed fault) :
    FaultsWithin allowed (.error fault : Except GraphError α) := by
  intro other failed
  cases failed
  exact within

theorem mono {other : GraphError → Prop} {result : Except GraphError α}
    (within : FaultsWithin allowed result) (weaker : ∀ fault, allowed fault → other fault) :
    FaultsWithin other result :=
  fun fault failed => weaker fault (within fault failed)

theorem bind {result : Except GraphError α} {next : α → Except GraphError β}
    (first : FaultsWithin allowed result) (rest : ∀ value, FaultsWithin allowed (next value)) :
    FaultsWithin allowed (result >>= next) := by
  cases result with
  | error fault => exact error (first fault rfl)
  | ok value => exact rest value

theorem map {result : Except GraphError α} {image : α → β}
    (first : FaultsWithin allowed result) : FaultsWithin allowed (result.map image) := by
  cases result with
  | error fault => exact error (first fault rfl)
  | ok value => exact ok (image value)

theorem mapM {items : List α} {step : α → Except GraphError β}
    (each : ∀ item, FaultsWithin allowed (step item)) :
    FaultsWithin allowed (items.mapM step) := by
  induction items with
  | nil => exact ok []
  | cons item rest ih =>
      rw [List.mapM_cons]
      exact (each item).bind fun value => ih.bind fun values => ok (value :: values)

end FaultsWithin

end Within

section Query

variable {α β : Type}

/-- What is read off a document: if that fails, then with a fault of the query. -/
def FaultsOfQuery (result : Except GraphError α) : Prop :=
  ∀ fault, result = .error fault → ∃ reason, fault = .query reason

namespace FaultsOfQuery

theorem ok (value : α) : FaultsOfQuery (.ok value) :=
  FaultsWithin.ok value

theorem error (reason : QueryFault) :
    FaultsOfQuery (.error (.query reason) : Except GraphError α) :=
  FaultsWithin.error ⟨reason, rfl⟩

theorem bind {result : Except GraphError α} {next : α → Except GraphError β}
    (first : FaultsOfQuery result) (rest : ∀ value, FaultsOfQuery (next value)) :
    FaultsOfQuery (result >>= next) :=
  FaultsWithin.bind first rest

theorem map {result : Except GraphError α} {image : α → β} (first : FaultsOfQuery result) :
    FaultsOfQuery (result.map image) :=
  FaultsWithin.map first

theorem mapM {items : List α} {step : α → Except GraphError β}
    (each : ∀ item, FaultsOfQuery (step item)) : FaultsOfQuery (items.mapM step) :=
  FaultsWithin.mapM each

end FaultsOfQuery

namespace Literal

variable {bindings : JsonObject}

mutual

theorem faultsOfQuery_toJson : ∀ literal, FaultsOfQuery (toJson bindings literal)
  | .variable name => by
      rw [toJson]
      split
      · exact .ok _
      · exact .error _
  | .float value => by
      rw [toJson]
      split
      · exact .ok _
      · exact .error _
  | .list items => by
      rw [toJson]
      exact (faultsOfQuery_toJsonItems items).map
  | .object fields => by
      rw [toJson]
      exact (faultsOfQuery_toJsonFields fields).map
  | .int value => by
      rw [toJson]
      exact .ok _
  | .string value => by
      rw [toJson]
      exact .ok _
  | .boolean value => by
      rw [toJson]
      exact .ok _
  | .null => by
      rw [toJson]
      exact .ok _
  | .enumeration name => by
      rw [toJson]
      exact .ok _

theorem faultsOfQuery_toJsonItems : ∀ items, FaultsOfQuery (toJsonItems bindings items)
  | [] => by
      rw [toJsonItems]
      exact .ok []
  | item :: rest => by
      rw [toJsonItems]
      refine (faultsOfQuery_toJson item).bind fun value => ?_
      exact (faultsOfQuery_toJsonItems rest).bind fun values => .ok _

theorem faultsOfQuery_toJsonFields : ∀ fields, FaultsOfQuery (toJsonFields bindings fields)
  | [] => by
      rw [toJsonFields]
      exact .ok []
  | (name, item) :: rest => by
      rw [toJsonFields]
      refine (faultsOfQuery_toJson item).bind fun value => ?_
      exact (faultsOfQuery_toJsonFields rest).bind fun values => .ok _

end

end Literal

theorem VariableDefinition.faultsOfQuery_bind (definitions : List VariableDefinition)
    (provided : JsonObject) : FaultsOfQuery (bind definitions provided) := by
  have valued : ∀ definition : VariableDefinition,
      FaultsOfQuery (definition.value provided) := by
    intro definition
    unfold value
    split
    · exact .ok _
    · exact Literal.faultsOfQuery_toJson _
    · exact .ok _
  unfold bind
  refine FaultsOfQuery.bind (.mapM fun definition => ?_) fun entries => .ok _
  exact (valued definition).bind fun given => .ok _

namespace QueryDocument

theorem faultsOfQuery_queryOf (definition : Definition) :
    FaultsOfQuery (queryOf definition) := by
  cases definition with
  | selectionSet selections => exact .ok _
  | fragment name typeCondition selections => exact .error _
  | operation kind name declared selections =>
      cases kind with
      | query => exact .ok _
      | mutation => exact .error _
      | subscription => exact .error _

theorem faultsOfQuery_choose (wanted : Option String) (operations : List QueryOperation) :
    FaultsOfQuery (choose wanted operations) := by
  unfold choose
  split
  · split
    · exact .ok _
    · exact .error _
  · split
    · exact .ok _
    · exact .error _
    · exact .error _

theorem faultsOfQuery_selectOperation (document : QueryDocument) (wanted : Option String) :
    FaultsOfQuery (document.selectOperation wanted) :=
  FaultsOfQuery.bind (.mapM faultsOfQuery_queryOf) (faultsOfQuery_choose wanted)

end QueryDocument

theorem Schema.faultsOfQuery_prepare (request : QueryRequest) :
    FaultsOfQuery (prepare request) := by
  unfold prepare
  split
  · refine (QueryDocument.faultsOfQuery_selectOperation _ _).bind fun operation => ?_
    exact (VariableDefinition.faultsOfQuery_bind _ _).bind fun bindings => .ok _
  · exact .error _

end Query

namespace Schema

theorem mem_objects_of_field? {R : Type} {schema : Schema R} {id : Nat} {name : String}
    {field : SchemaField R} (found : (schema.object id).field? name = some field) :
    schema.object id ∈ schema.objects := by
  unfold Schema.object at found ⊢
  rw [List.getD_eq_getElem?_getD] at found ⊢
  cases placed : schema.objects[id]? with
  | none =>
      rw [placed] at found
      cases found
  | some object => exact List.mem_of_getElem? placed

end Schema

namespace Execution

variable {World α β : Type}

theorem faultsOfQuery_selectedNames (selections : List Selection) :
    FaultsOfQuery (selectedNames selections) := by
  refine FaultsOfQuery.bind (.mapM fun selection => ?_) fun names => .ok _
  cases selection with
  | field renamed name arguments below => exact .ok _
  | fragmentSpread name => exact .error _
  | inlineFragment typeCondition below => exact .error _

theorem faultsOfQuery_itemRecord (field typeName : String) (item : Json) :
    FaultsOfQuery (itemRecord field typeName item) := by
  unfold itemRecord
  split
  · exact .ok _
  · exact .error _

/-- A step ends with an error and leads from one progress to another. -/
def Fails (step : Execution World α) (before : Progress World) (fault : GraphError)
    (after : Progress World) : Prop :=
  step before = (.error fault, after)

section Fails

variable {before after : Progress World} {fault : GraphError}

@[simp]
theorem not_fails_pure {given : α} :
    ¬ Fails (pure given : Execution World α) before fault after := by
  intro fails
  cases fails

@[simp]
theorem fails_throw {thrown : GraphError} :
    Fails (throw thrown : Execution World α) before fault after ↔
      thrown = fault ∧ before = after := by
  constructor
  · intro fails
    cases fails
    exact ⟨rfl, rfl⟩
  · rintro ⟨rfl, rfl⟩
    rfl

@[simp]
theorem fails_ofExcept {result : Except GraphError α} :
    Fails (ofExcept result) before fault after ↔ result = .error fault ∧ before = after := by
  constructor
  · intro fails
    cases fails
    exact ⟨rfl, rfl⟩
  · rintro ⟨rfl, rfl⟩
    rfl

theorem fails_bind {step : Execution World α} {next : α → Execution World β} :
    Fails (step >>= next) before fault after ↔
      Fails step before fault after ∨
        ∃ given middle, Gives step before given middle ∧
          Fails (next given) middle fault after := by
  constructor
  · intro fails
    unfold Fails at fails
    rw [bind_apply] at fails
    split at fails
    · rename_i given middle first
      exact .inr ⟨given, middle, first, fails⟩
    · rename_i thrown middle first
      cases fails
      exact .inl first
  · rintro (first | ⟨given, middle, first, second⟩)
    · unfold Fails at first ⊢
      rw [bind_apply, first]
    · unfold Fails Gives at *
      rw [bind_apply, first]
      exact second

/-- A call that fails was either refused to a cancelled request, or it was made. -/
theorem calls_of_fails_call {resolver : Resolver World} {params : ResolveParams}
    (fails : Fails (call resolver params) before fault after) :
    fault = .cancelled ∨ after.calls = before.calls ++ [params] := by
  unfold Fails call at fails
  split at fails
  · cases fails
    exact .inl rfl
  · rcases answer : resolver params before.state with ⟨outcome, state⟩
    rw [answer] at fails
    cases fails
    exact .inr rfl

end Fails

/-- A step that takes back no call. -/
def KeepsCalls (step : Execution World α) : Prop :=
  ∀ before, before.calls <+: (step before).2.calls

theorem KeepsCalls.of_gives {step : Execution World α} (keeps : KeepsCalls step)
    {before after : Progress World} {value : α} (gives : Gives step before value after) :
    before.calls <+: after.calls := by
  have kept := keeps before
  rwa [gives] at kept

theorem KeepsCalls.of_fails {step : Execution World α} (keeps : KeepsCalls step)
    {before after : Progress World} {fault : GraphError}
    (fails : Fails step before fault after) : before.calls <+: after.calls := by
  have kept := keeps before
  rwa [fails] at kept

theorem keepsCalls_ofExcept (result : Except GraphError α) :
    KeepsCalls (ofExcept result : Execution World α) :=
  fun _ => List.prefix_refl _

theorem keepsCalls_call (resolver : Resolver World) (params : ResolveParams) :
    KeepsCalls (call resolver params) := by
  intro before
  unfold call
  split
  · exact List.prefix_refl _
  · exact List.prefix_append _ _

theorem KeepsCalls.bind {step : Execution World α} {next : α → Execution World β}
    (first : KeepsCalls step) (rest : ∀ given, KeepsCalls (next given)) :
    KeepsCalls (step >>= next) := by
  intro before
  have kept := first before
  rw [bind_apply]
  split
  · rename_i given middle outcome
    rw [outcome] at kept
    exact kept.trans (rest given middle)
  · rename_i fault middle outcome
    rw [outcome] at kept
    exact kept

/-- A step that is put together of computations with allowed errors and of calls of resolvers
that are held. -/
inductive Composed (held : Resolver World → Prop) (allowed : GraphError → Prop) :
    ∀ {α : Type}, Execution World α → Prop
  | ofExcept {α : Type} {result : Except GraphError α} (within : FaultsWithin allowed result) :
      Composed held allowed (ofExcept result)
  | call {resolver : Resolver World} (isHeld : held resolver) (params : ResolveParams) :
      Composed held allowed (call resolver params)
  | bind {α β : Type} {step : Execution World α} {next : α → Execution World β}
      (first : Composed held allowed step) (rest : ∀ given, Composed held allowed (next given)) :
      Composed held allowed (step >>= next)

section Composed

variable {held : Resolver World → Prop} {allowed : GraphError → Prop}

theorem Composed.keepsCalls {step : Execution World α} (composed : Composed held allowed step) :
    KeepsCalls step := by
  induction composed with
  | ofExcept within => exact keepsCalls_ofExcept _
  | call isHeld params => exact keepsCalls_call _ params
  | bind _ _ first rest => exact first.bind rest

/-- The last call of a progress was answered with an error by a resolver that is held. -/
def AnsweredWith (held : Resolver World → Prop) (fault : GraphError)
    (after : Progress World) : Prop :=
  ∃ resolver params state, held resolver ∧ after.calls.getLast? = some params ∧
    resolver params state = (.error fault, after.state)

/-- An error of a composed step is allowed, tells that the request was cancelled, or is what a
held resolver answered to the last call. -/
theorem Composed.blame {step : Execution World α} (composed : Composed held allowed step)
    {before after : Progress World} {fault : GraphError} (fails : Fails step before fault after) :
    allowed fault ∨ fault = .cancelled ∨ AnsweredWith held fault after := by
  induction composed generalizing before with
  | ofExcept within => exact .inl (within fault (fails_ofExcept.mp fails).1)
  | @call resolver isHeld params =>
      unfold Fails Execution.call at fails
      split at fails
      · cases fails
        exact .inr (.inl rfl)
      · rcases answer : resolver params before.state with ⟨outcome, state⟩
        rw [answer] at fails
        cases fails
        exact .inr (.inr ⟨resolver, params, before.state, isHeld, List.getLast?_concat, answer⟩)
  | bind _ _ first rest =>
      rcases fails_bind.mp fails with fails | ⟨given, middle, _, fails⟩
      · exact first fails
      · exact rest given fails

theorem Composed.pure (given : α) : Composed held allowed (pure given : Execution World α) :=
  .ofExcept (.ok given)

theorem Composed.throw {fault : GraphError} (within : allowed fault) :
    Composed held allowed (throw fault : Execution World α) :=
  .ofExcept (.error within)

theorem Composed.mapM {items : List α} {step : α → Execution World β}
    (each : ∀ item, Composed held allowed (step item)) :
    Composed held allowed (items.mapM step) := by
  induction items with
  | nil => exact .pure []
  | cons item rest ih =>
      rw [List.mapM_cons]
      exact (each item).bind fun given => ih.bind fun others => .pure _

/-- The resolvers of a schema are held, and what is computed between their calls fails with
allowed errors only. -/
structure Admits (schema : Schema (Resolver World)) (bindings : JsonObject)
    (held : Resolver World → Prop) (allowed : GraphError → Prop) : Prop where
  query : ∀ reason, allowed (.query reason)
  rootHeld : ∀ root ∈ schema.roots, held root.resolver
  rootArguments : ∀ root ∈ schema.roots, ∀ arguments,
    FaultsWithin allowed (validated schema bindings root.name root.arguments arguments)
  fieldHeld : ∀ object ∈ schema.objects, ∀ field ∈ object.fields, ∀ resolver,
    field.resolver = some resolver → held resolver
  fieldArguments : ∀ object ∈ schema.objects, ∀ field ∈ object.fields, ∀ arguments,
    FaultsWithin allowed (validated schema bindings field.name field.arguments arguments)

variable {schema : Schema (Resolver World)} {bindings : JsonObject}

theorem Admits.reads (admits : Admits schema bindings held allowed)
    {result : Except GraphError α} (ofQuery : FaultsOfQuery result) :
    Composed held allowed (Execution.ofExcept result : Execution World α) := by
  refine .ofExcept fun fault failed => ?_
  obtain ⟨reason, rfl⟩ := ofQuery fault failed
  exact admits.query reason

theorem composed_shape {isList : Bool} {records : List Record}
    {complete : Record → Execution World Json}
    (each : ∀ record, Composed held allowed (complete record)) :
    Composed held allowed (shape isList records complete) := by
  cases isList with
  | true => exact (Composed.mapM each).bind fun values => .pure _
  | false =>
      cases records with
      | nil => exact .pure _
      | cons record rest => exact each record

theorem composed_resolveNode (admits : Admits schema bindings held allowed) {field : String}
    {resolver : Resolver World} {accepted : List ArgumentDefinition} {output : OutputType}
    {arguments : List (String × Literal)} {selections : List Selection}
    {parent : Option Record}
    {complete : ObjectType (Resolver World) → Record → Execution World Json}
    (isHeld : held resolver)
    (within : FaultsWithin allowed (validated schema bindings field accepted arguments))
    (each : ∀ id record, Composed held allowed (complete (schema.object id) record)) :
    Composed held allowed (resolveNode schema bindings field resolver accepted output arguments
      selections parent complete) := by
  unfold resolveNode
  cases output.objectId? with
  | none => exact .throw (admits.query _)
  | some id =>
      refine (Composed.ofExcept within).bind fun given => ?_
      refine (admits.reads (faultsOfQuery_selectedNames selections)).bind fun names => ?_
      exact (Composed.call isHeld _).bind fun records => composed_shape (each id)

theorem composed_resolveScalar {field : SchemaField (Resolver World)}
    {arguments : ValidatedArguments} {record : Record}
    (isHeld : ∀ resolver, field.resolver = some resolver → held resolver) :
    Composed held allowed (resolveScalar field arguments record) := by
  unfold resolveScalar
  cases owned : field.resolver with
  | none => exact .pure _
  | some resolver =>
      refine (Composed.call (isHeld resolver owned) _).bind fun records => ?_
      exact composed_shape fun found => .pure _

theorem composed_copyNode (admits : Admits schema bindings held allowed)
    {field typeName : String} {found : Option Json}
    {complete : Record → Execution World Json}
    (each : ∀ record, Composed held allowed (complete record)) :
    Composed held allowed (copyNode field typeName found complete) := by
  unfold copyNode
  split
  · exact .pure _
  · exact .pure _
  · exact each _
  · refine (admits.reads (.mapM (faultsOfQuery_itemRecord field typeName))).bind fun records => ?_
    exact composed_shape each
  · exact .throw (admits.query _)

theorem composed_completeField (admits : Admits schema bindings held allowed)
    {object : ObjectType (Resolver World)} {record : Record} {key name : String}
    {arguments : List (String × Literal)} {selections : List Selection}
    {field : SchemaField (Resolver World)}
    {complete : ObjectType (Resolver World) → Record → Execution World Json}
    (placed : object ∈ schema.objects) (declares : field ∈ object.fields)
    (each : ∀ id found, Composed held allowed (complete (schema.object id) found)) :
    Composed held allowed (completeField schema bindings object record key name arguments
      selections field complete) := by
  have isHeld := admits.fieldHeld object placed field declares
  have within := admits.fieldArguments object placed field declares arguments
  unfold completeField
  split
  · split
    · exact .throw (admits.query _)
    · refine (Composed.ofExcept within).bind fun given => ?_
      exact (composed_resolveScalar isHeld).bind fun value => .pure _
  · rename_i resolver _ owned
    exact (composed_resolveNode admits (isHeld resolver owned) within each).bind
      fun value => .pure _
  · split
    · exact .throw (admits.query _)
    · exact (composed_copyNode admits (each _)).bind fun value => .pure _

mutual

theorem composed_completeSelection (admits : Admits schema bindings held allowed) :
    ∀ (selection : Selection) (id : Nat) (record : Record), Composed held allowed
      (completeSelection schema bindings (schema.object id) record selection)
  | .fragmentSpread name, _, _ => by
      rw [completeSelection]
      exact .throw (admits.query _)
  | .inlineFragment typeCondition selections, _, _ => by
      rw [completeSelection]
      exact .throw (admits.query _)
  | .field renamed name arguments selections, id, record => by
      rw [completeSelection]
      split
      · exact .pure _
      · cases found : (schema.object id).field? name with
        | none => exact .throw (admits.query _)
        | some field =>
            refine composed_completeField admits (Schema.mem_objects_of_field? found)
              (List.mem_of_find?_eq_some found) fun nested other => ?_
            exact (composed_completeSelections admits selections nested other).bind
              fun entries => .pure _

theorem composed_completeSelections (admits : Admits schema bindings held allowed) :
    ∀ (selections : List Selection) (id : Nat) (record : Record), Composed held allowed
      (completeSelections schema bindings (schema.object id) record selections)
  | [], _, _ => by
      rw [completeSelections]
      exact .pure _
  | selection :: rest, id, record => by
      rw [completeSelections]
      refine (composed_completeSelection admits selection id record).bind fun entry => ?_
      exact (composed_completeSelections admits rest id record).bind fun entries => .pure _

end

theorem composed_completeObject (admits : Admits schema bindings held allowed)
    {selections : List Selection} (id : Nat) (record : Record) : Composed held allowed
      (completeObject schema bindings selections (schema.object id) record) :=
  (composed_completeSelections admits selections id record).bind fun _ => .pure _

theorem composed_rootSelection (admits : Admits schema bindings held allowed)
    (selection : Selection) :
    Composed held allowed (rootSelection schema bindings selection) := by
  cases selection with
  | fragmentSpread name => exact .throw (admits.query _)
  | inlineFragment typeCondition selections => exact .throw (admits.query _)
  | field renamed name arguments selections =>
      rw [rootSelection]
      split
      · exact .pure _
      · cases found : schema.root? name with
        | none => exact .throw (admits.query _)
        | some root =>
            have placed : root ∈ schema.roots := List.mem_of_find?_eq_some found
            exact (composed_resolveNode admits (admits.rootHeld root placed)
              (admits.rootArguments root placed arguments)
              (composed_completeObject admits)).bind fun value => .pure _

theorem composed_rootSelections (admits : Admits schema bindings held allowed)
    (selections : List Selection) :
    Composed held allowed (rootSelections schema bindings selections) :=
  (Composed.mapM (composed_rootSelection admits)).bind fun _ => .pure _

theorem composed_execute (admits : ∀ bindings, Admits schema bindings held allowed)
    (request : QueryRequest) : Composed held allowed (schema.execute request) :=
  ((admits []).reads (Schema.faultsOfQuery_prepare request)).bind fun prepared =>
    composed_rootSelections (admits prepared.2) prepared.1

/-- Every execution is composed, whatever the schema. -/
theorem admits_all : Admits schema bindings (fun _ => True) fun _ => True where
  query _ := trivial
  rootHeld _ _ := trivial
  rootArguments _ _ _ _ _ := trivial
  fieldHeld _ _ _ _ _ _ := trivial
  fieldArguments _ _ _ _ _ _ _ := trivial

end Composed

end Execution

end NodeGraph
