import NodeGraph.Proofs.Execution.Answers

/-!
# Responses conform to their selections

A request that returns data returns a response that conforms to its selections at every
depth, by induction on the selections.
-/

namespace NodeGraph

theorem ObjectType.name_of_field? {R : Type} {object : ObjectType R} {name : String}
    {field : SchemaField R} (found : object.field? name = some field) : field.name = name := by
  simpa using List.find?_some found

namespace Execution

variable {World : Type}

/-- Shaped records are all completed in order, or only the first one if there is any. -/
theorem gives_shape {isList : Bool} {records : List Record}
    {complete : Record → Execution World Json} {before after : Progress World}
    {value : Json} (gives : Gives (shape isList records complete) before value after) :
    (isList = true ∧ ∃ values, value = .array values ∧
        Gives (records.mapM complete) before values after) ∨
      (isList = false ∧ ∃ record rest, records = record :: rest ∧
        Gives (complete record) before value after) ∨
      (isList = false ∧ records = [] ∧ value = .null ∧ before = after) := by
  cases isList with
  | true =>
      obtain ⟨values, middle, completed, returned⟩ := gives_bind.mp gives
      obtain ⟨rfl, rfl⟩ := gives_pure.mp returned
      exact .inl ⟨rfl, values, rfl, completed⟩
  | false =>
      cases records with
      | nil =>
          obtain ⟨rfl, rfl⟩ := gives_pure.mp gives
          exact .inr (.inr ⟨rfl, rfl, rfl, rfl⟩)
      | cons record rest => exact .inr (.inl ⟨rfl, record, rest, rfl, gives⟩)

theorem gives_mapM_pure {α : Type} {items : List Record} {compute : Record → α}
    {before after : Progress World} {values : List α}
    (gives : Gives (items.mapM fun item => (pure (compute item) : Execution World α)) before
      values after) :
    values = items.map compute ∧ before = after := by
  have computed : (items.mapM fun item => (pure (compute item) : Execution World α)) =
      pure (items.map compute) := List.mapM_pure
  rw [computed] at gives
  obtain ⟨rfl, rfl⟩ := gives_pure.mp gives
  exact ⟨rfl, rfl⟩

theorem gives_entry {key : String} {step : Execution World Json}
    {before after : Progress World} {entry : String × Json}
    (gives : Gives (step >>= fun value => pure (key, value)) before entry after) :
    ∃ value, entry = (key, value) ∧ Gives step before value after := by
  obtain ⟨value, _, given, returned⟩ := gives_bind.mp gives
  obtain ⟨rfl, rfl⟩ := gives_pure.mp returned
  exact ⟨value, rfl, given⟩

section Completion

variable {schema : Schema (Resolver World)} {bindings : JsonObject}
  {object : ObjectType (Resolver World)} {selections : List Selection}

theorem answersObjects_of_mapM {complete : Record → Execution World Json}
    (each : ∀ record before value after, Gives (complete record) before value after →
      AnswersObject schema bindings object selections record before value after)
    {records : List Record} {before after : Progress World} {values : List Json}
    (gives : Gives (records.mapM complete) before values after) :
    AnswersObjects schema bindings object selections records before values after := by
  induction records generalizing before values with
  | nil =>
      obtain ⟨rfl, rfl⟩ := gives_pure.mp gives
      exact .nil
  | cons record rest ih =>
      rw [List.mapM_cons] at gives
      obtain ⟨value, middle, first, gives⟩ := gives_bind.mp gives
      obtain ⟨others, last, second, returned⟩ := gives_bind.mp gives
      obtain ⟨rfl, rfl⟩ := gives_pure.mp returned
      exact .cons (each _ _ _ _ first) (ih second)

/-- A resolved node is answered if its records are. -/
theorem answersNode_of_gives {node : NodeField World}
    {arguments : List (String × Literal)} {parent : Option Record}
    {complete : ObjectType (Resolver World) → Record → Execution World Json}
    (each : ∀ object record before value after,
      Gives (complete object record) before value after →
        AnswersObject schema bindings object selections record before value after)
    {before after : Progress World} {value : Json}
    (gives : Gives (resolveNode schema bindings node.name node.resolver node.accepted
      node.output arguments selections parent complete) before value after) :
    AnswersNode schema bindings node arguments selections parent before value after := by
  unfold resolveNode at gives
  cases target : node.output.objectId? with
  | none => simp [target] at gives
  | some id =>
      simp only [target] at gives
      obtain ⟨given, _, validated, gives⟩ := gives_bind.mp gives
      obtain ⟨valid, rfl⟩ := gives_ofExcept.mp validated
      obtain ⟨names, _, listed, gives⟩ := gives_bind.mp gives
      obtain ⟨selected, rfl⟩ := gives_ofExcept.mp listed
      obtain ⟨records, middle, called, gives⟩ := gives_bind.mp gives
      have nodeCalled : NodeCalled schema bindings node arguments selections parent before id
          records middle :=
        ⟨target, given, names, valid, selected, gives_call.mp called⟩
      rcases gives_shape gives with ⟨isList, values, rfl, completed⟩ |
        ⟨singular, record, rest, rfl, completed⟩ | ⟨singular, rfl, rfl, rfl⟩
      · exact .list isList nodeCalled (answersObjects_of_mapM (each _) completed)
      · exact .first singular nodeCalled (each _ _ _ _ _ completed)
      · exact .none singular nodeCalled

theorem mapM_itemRecord {field typeName : String} {items : List Json}
    {records : List Record} (read : items.mapM (itemRecord field typeName) = .ok records) :
    items = records.map Json.object := by
  induction items generalizing records with
  | nil =>
      cases read
      rfl
  | cons item rest ih =>
      rw [List.mapM_cons] at read
      cases item with
      | object fields =>
          cases others : rest.mapM (itemRecord field typeName) with
          | error fault =>
              simp only [itemRecord, others] at read
              cases read
          | ok found =>
              simp only [itemRecord, others] at read
              cases read
              rw [List.map_cons, ← ih others]
      | _ => cases read

theorem answersSelection_of_resolveScalar {record : Record} {renamed : Option String}
    {name : String} {arguments : List (String × Literal)}
    {field : SchemaField (Resolver World)} {given : ValidatedArguments}
    (notTypename : name ≠ typenameField) (found : object.field? name = some field)
    (scalar : field.output.objectId? = none)
    (valid : validated schema bindings field.name field.arguments arguments = .ok given)
    {before after : Progress World} {value : Json}
    (gives : Gives (resolveScalar field given record) before value after) :
    AnswersSelection schema bindings object record (.field renamed name arguments []) before
      (Selection.responseKey renamed name, value) after := by
  unfold resolveScalar at gives
  rw [ObjectType.name_of_field? found] at valid gives
  cases resolved : field.resolver with
  | none =>
      simp only [resolved] at gives
      obtain ⟨rfl, rfl⟩ := gives_pure.mp gives
      exact .scalarRead notTypename found scalar resolved valid
  | some resolver =>
      simp only [resolved] at gives
      obtain ⟨records, middle, called, gives⟩ := gives_bind.mp gives
      have answered : AnswersSelection schema bindings object record
          (.field renamed name arguments []) before
          (Selection.responseKey renamed name,
            scalarValue field.output.isList name records) middle :=
        .scalarResolved notTypename found scalar resolved valid (gives_call.mp called)
      rcases gives_shape gives with ⟨isList, values, rfl, completed⟩ |
        ⟨singular, first, rest, rfl, completed⟩ | ⟨singular, rfl, rfl, rfl⟩
      · obtain ⟨rfl, rfl⟩ := gives_mapM_pure completed
        simpa only [scalarValue, isList, if_true] using answered
      · obtain ⟨rfl, rfl⟩ := gives_pure.mp completed
        simpa [scalarValue, singular] using answered
      · simpa [scalarValue, singular] using answered

/-- A node without resolver is answered from what the record of its parent holds. -/
theorem answersSelection_of_copyNode {record : Record} {renamed : Option String}
    {name : String} {field : SchemaField (Resolver World)} {id : Nat}
    {complete : Record → Execution World Json} (notTypename : name ≠ typenameField)
    (found : object.field? name = some field) (target : field.output.objectId? = some id)
    (unresolved : field.resolver = none)
    (each : ∀ record before value after, Gives (complete record) before value after →
      AnswersObject schema bindings (schema.object id) selections record before value after)
    {before after : Progress World} {value : Json}
    (gives : Gives (copyNode name object.name (JsonObject.find? record name) complete) before
      value after) :
    AnswersSelection schema bindings object record (.field renamed name [] selections) before
      (Selection.responseKey renamed name, value) after := by
  unfold copyNode at gives
  split at gives
  · rename_i absent
    obtain ⟨rfl, rfl⟩ := gives_pure.mp gives
    exact .nodeAbsent notTypename found target unresolved (.inl absent)
  · rename_i null
    obtain ⟨rfl, rfl⟩ := gives_pure.mp gives
    exact .nodeAbsent notTypename found target unresolved (.inr null)
  · rename_i nested held
    exact .nodeObject notTypename found target unresolved held (each _ _ _ _ gives)
  · rename_i items held
    obtain ⟨records, _, listed, gives⟩ := gives_bind.mp gives
    obtain ⟨read, rfl⟩ := gives_ofExcept.mp listed
    rw [mapM_itemRecord read] at held
    rcases gives_shape gives with ⟨-, values, rfl, completed⟩ | ⟨impossible, -⟩ |
      ⟨impossible, -⟩
    · exact .nodeList notTypename found target unresolved held
        (answersObjects_of_mapM each completed)
    · cases impossible
    · cases impossible
  · exact absurd gives gives_throw

end Completion

variable {schema : Schema (Resolver World)} {bindings : JsonObject}

/-- A selection set that is answered entry by entry answers the object. -/
theorem answersObject_of_gives {object : ObjectType (Resolver World)}
    {selections : List Selection} {record : Record}
    (entrywise : ∀ before entries after,
      Gives (completeSelections schema bindings object record selections) before entries
        after →
      AnswersSelections schema bindings object record selections before entries after)
    {before after : Progress World} {value : Json}
    (gives : Gives (completeObject schema bindings selections object record) before value
      after) :
    AnswersObject schema bindings object selections record before value after := by
  obtain ⟨entries, _, answered, returned⟩ := gives_bind.mp gives
  obtain ⟨rfl, rfl⟩ := gives_pure.mp returned
  exact (entrywise _ _ _ answered).object

/-- A field of an object is answered if the objects under its selections are. -/
theorem answersSelection_of_completeField {object : ObjectType (Resolver World)}
    {record : Record} {renamed : Option String} {name : String}
    {arguments : List (String × Literal)} {selections : List Selection}
    {field : SchemaField (Resolver World)}
    {complete : ObjectType (Resolver World) → Record → Execution World Json}
    (notTypename : name ≠ typenameField) (found : object.field? name = some field)
    (each : ∀ nested inner before value after,
      Gives (complete nested inner) before value after →
        AnswersObject schema bindings nested selections inner before value after)
    {before after : Progress World} {entry : String × Json}
    (gives : Gives (completeField schema bindings object record
      (Selection.responseKey renamed name) name arguments selections field complete) before
      entry after) :
    AnswersSelection schema bindings object record
      (.field renamed name arguments selections) before entry after := by
  unfold completeField at gives
  cases target : field.output.objectId? with
  | none =>
      simp only [target] at gives
      split at gives
      · exact absurd gives gives_throw
      rename_i noSelections
      obtain rfl : selections = [] := by simpa using noSelections
      obtain ⟨given, _, validated, gives⟩ := gives_bind.mp gives
      obtain ⟨valid, rfl⟩ := gives_ofExcept.mp validated
      obtain ⟨value, rfl, scalar⟩ := gives_entry gives
      exact answersSelection_of_resolveScalar notTypename found target valid scalar
  | some id =>
      cases resolved : field.resolver with
      | some resolver =>
          simp only [target, resolved] at gives
          obtain ⟨value, rfl, completed⟩ := gives_entry gives
          rw [ObjectType.name_of_field? found] at completed
          refine .nodeResolved notTypename found resolved ?_
          exact answersNode_of_gives each completed
      | none =>
          simp only [target, resolved] at gives
          split at gives
          · exact absurd gives gives_throw
          rename_i noArguments
          obtain rfl : arguments = [] := by simpa using noArguments
          obtain ⟨value, rfl, completed⟩ := gives_entry gives
          exact answersSelection_of_copyNode notTypename found target resolved (each _)
            completed

mutual

/-- What a selection gives answers it, whatever its depth. -/
theorem answersSelection_of_gives {object : ObjectType (Resolver World)} {record : Record} :
    ∀ (selection : Selection) {before after : Progress World} {entry : String × Json},
      Gives (completeSelection schema bindings object record selection) before entry after →
        AnswersSelection schema bindings object record selection before entry after
  | .fragmentSpread name, _, _, _, gives => by
      rw [completeSelection] at gives
      exact absurd gives gives_throw
  | .inlineFragment typeCondition selections, _, _, _, gives => by
      rw [completeSelection] at gives
      exact absurd gives gives_throw
  | .field renamed name arguments selections, before, after, entry, gives => by
      by_cases isTypename : name = typenameField
      · rw [completeSelection, if_pos isTypename] at gives
        subst isTypename
        obtain ⟨rfl, rfl⟩ := gives_pure.mp gives
        exact .typename
      · cases found : object.field? name with
        | none =>
            rw [completeSelection, if_neg isTypename, found] at gives
            exact absurd gives gives_throw
        | some field =>
            rw [completeSelection, if_neg isTypename, found] at gives
            refine answersSelection_of_completeField isTypename found ?_ gives
            intro nested inner before value after
            exact answersObject_of_gives fun _ _ _ => answersSelections_of_gives selections

theorem answersSelections_of_gives {object : ObjectType (Resolver World)}
    {record : Record} :
    ∀ (selections : List Selection) {before after : Progress World}
      {entries : List (String × Json)},
      Gives (completeSelections schema bindings object record selections) before entries
        after →
        AnswersSelections schema bindings object record selections before entries after
  | [], _, _, _, gives => by
      rw [completeSelections] at gives
      obtain ⟨rfl, rfl⟩ := gives_pure.mp gives
      exact .nil
  | selection :: rest, _, _, _, gives => by
      rw [completeSelections] at gives
      obtain ⟨entry, middle, first, gives⟩ := gives_bind.mp gives
      obtain ⟨entries, last, second, returned⟩ := gives_bind.mp gives
      obtain ⟨rfl, rfl⟩ := gives_pure.mp returned
      exact .cons (answersSelection_of_gives selection first)
        (answersSelections_of_gives rest second)

end

theorem answersRoot_of_gives {selection : Selection} {before after : Progress World}
    {entry : String × Json}
    (gives : Gives (rootSelection schema bindings selection) before entry after) :
    AnswersRoot schema bindings selection before entry after := by
  cases selection with
  | fragmentSpread name => exact absurd gives gives_throw
  | inlineFragment typeCondition selections => exact absurd gives gives_throw
  | field renamed name arguments selections =>
      unfold rootSelection at gives
      by_cases isTypename : name = typenameField
      · simp only [if_pos isTypename] at gives
        subst isTypename
        obtain ⟨rfl, rfl⟩ := gives_pure.mp gives
        exact .typename
      · simp only [if_neg isTypename] at gives
        cases found : schema.root? name with
        | none =>
            simp only [found] at gives
            exact absurd gives gives_throw
        | some root =>
            have named : root.name = name := by simpa using List.find?_some found
            simp only [found] at gives
            obtain ⟨value, rfl, completed⟩ := gives_entry gives
            rw [named] at completed
            refine .node isTypename found (answersNode_of_gives ?_ completed)
            intro nested inner before value after
            exact answersObject_of_gives fun _ _ _ => answersSelections_of_gives selections

theorem answersRoots_of_gives {selections : List Selection} {before after : Progress World}
    {entries : List (String × Json)}
    (gives : Gives (selections.mapM (rootSelection schema bindings)) before entries after) :
    AnswersRoots schema bindings selections before entries after := by
  induction selections generalizing before entries with
  | nil =>
      obtain ⟨rfl, rfl⟩ := gives_pure.mp gives
      exact .nil
  | cons selection rest ih =>
      rw [List.mapM_cons] at gives
      obtain ⟨entry, middle, first, gives⟩ := gives_bind.mp gives
      obtain ⟨others, last, second, returned⟩ := gives_bind.mp gives
      obtain ⟨rfl, rfl⟩ := gives_pure.mp returned
      exact .cons (answersRoot_of_gives first) (ih second)

end Execution

/-- The response of every request that returns data conforms to its selections at every
depth, for every schema and whatever the resolvers do. -/
theorem Schema.response_conforms {World : Type} {schema : Schema (Resolver World)}
    {request : QueryRequest} {before after : Progress World} {data : Json}
    (executed : schema.execute request before = (.ok data, after)) :
    ∃ selections bindings, Schema.prepare request = .ok (selections, bindings) ∧
      Execution.AnswersQuery schema bindings selections before data after := by
  have gives : Execution.Gives (schema.execute request) before data after := executed
  obtain ⟨⟨selections, bindings⟩, _, ready, gives⟩ := Execution.gives_bind.mp gives
  obtain ⟨prepared, rfl⟩ := Execution.gives_ofExcept.mp ready
  obtain ⟨entries, _, answered, returned⟩ := Execution.gives_bind.mp gives
  obtain ⟨rfl, rfl⟩ := Execution.gives_pure.mp returned
  exact ⟨selections, bindings, prepared, (Execution.answersRoots_of_gives answered).query⟩

namespace Library

/-- Authors, whose books are read from their records and whose best book is resolved. -/
def author : ObjectType (Resolver Unit) where
  name := "Author"
  nodeType := "author"
  fields :=
    [{ name := "name", output := .scalar .string },
      { name := "books", output := .list (.object 1), nodeType := some "book" },
      { name := "best", output := .object 1, nodeType := some "book",
        resolver := some fun _ state => (.ok [[("title", .string "Emma")], []], state) }]
  complete := true

/-- Books, whose pages are counted by a resolver. -/
def book : ObjectType (Resolver Unit) where
  name := "Book"
  nodeType := "book"
  fields :=
    [{ name := "title", output := .scalar .string },
      { name := "pages", output := .scalar .int,
        resolver := some fun _ state => (.ok [[("pages", Json.ofInt 474)]], state) }]
  complete := true

def library : Schema (Resolver Unit) where
  objects := [author, book]
  roots := [⟨"authors", "author", .list (.object 0), [⟨"limit", "Limit"⟩],
    fun _ state =>
      (.ok [[("name", .string "Austen"),
        ("books", .array [.object [("title", .string "Persuasion")]])]], state)⟩]
  arguments := .builtIn

def request : QueryRequest where
  query := "\x7b kind: __typename authors(limit: \x7bcount: 1\x7d) \x7b id: name " ++
    "best \x7b title \x7d id: __typename books \x7b pages title \x7d \x7d \x7d"

def start : Progress Unit := ⟨⟨(), false⟩, []⟩

theorem response_conforms_authors :
    ∃ data after selections bindings, library.execute request start = (.ok data, after) ∧
      data.compact =
        "\x7b\"kind\":\"Query\",\"authors\":[\x7b\"id\":\"Author\"," ++
          "\"best\":\x7b\"title\":\"Emma\"\x7d," ++
          "\"books\":[\x7b\"pages\":474,\"title\":\"Persuasion\"\x7d]\x7d]\x7d" ∧
      Schema.prepare request = .ok (selections, bindings) ∧
      Execution.AnswersQuery library bindings selections start data after := by
  have shown : (library.execute request start).1.toOption.map Json.compact =
      some ("\x7b\"kind\":\"Query\",\"authors\":[\x7b\"id\":\"Author\"," ++
        "\"best\":\x7b\"title\":\"Emma\"\x7d," ++
        "\"books\":[\x7b\"pages\":474,\"title\":\"Persuasion\"\x7d]\x7d]\x7d") := by
    decide +kernel
  rcases executed : library.execute request start with ⟨fault | data, after⟩
  · rw [executed] at shown
    cases shown
  · rw [executed] at shown
    obtain ⟨selections, bindings, prepared, answered⟩ := Schema.response_conforms executed
    exact ⟨data, after, selections, bindings, rfl, Option.some.inj shown, prepared, answered⟩

end Library

end NodeGraph
