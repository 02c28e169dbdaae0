import NodeGraph.Proofs.Execution.Calls
import NodeGraph.Proofs.Execution.Documents
import NodeGraph.Proofs.Execution.Faults
import NodeGraph.Schema.Catalog
import Mathlib.Tactic.FinCases

/-!
# Shapes of node values

A field that refers to a node is declared to hold a list or a single object.  Where the field
has a resolver of its own, the declaration decides between an array and an object; where it is
read from the record of its parent, the record decides, so the value has the declared shape
at every depth if all records do.
-/

namespace NodeGraph

/-- Values of the shape that an output promises: an array for a list, an object otherwise,
and null for either. -/
inductive Shaped : Bool → Json → Prop
  | null (isList : Bool) : Shaped isList .null
  | array (items : List Json) : Shaped true (.array items)
  | object (fields : List (String × Json)) : Shaped false (.object fields)

/-- The field that decides on the value under a key: no later selection has the key. -/
inductive Selection.Decides : List Selection → String → String → List Selection → Prop
  | last (front : List Selection) (renamed : Option String) (name : String)
      (arguments : List (String × Literal)) (below back : List Selection)
      (unrepeated : responseKey renamed name ∉ back.filterMap Selection.key?) :
      Decides (front ++ .field renamed name arguments below :: back)
        (responseKey renamed name) name below

namespace Schema

section Occurrences

variable {R : Type}

/-- The output of a field that refers to a node, on the query root or on the object at a
position, and whether the field has a resolver of its own. -/
def nodeOutput? (schema : Schema R) (name : String) : Option Nat → Option (OutputType × Bool)
  | none => (schema.root? name).map fun root => (root.output, true)
  | some id => do
      let field ← (schema.object id).field? name
      let _ ← field.output.objectId?
      return (field.output, field.resolver.isSome)

/-- The objects that a response holds for a node. -/
def responseObjects : Json → List Json
  | .array items => items
  | other => [other]

/-- A value of a field that refers to a node, at any depth of the response that a selection
set has on the query root or on the object at a position. -/
inductive NodeValue (schema : Schema R) (output : OutputType) (resolved : Bool)
    (value : Json) : Option Nat → List Selection → Json → Prop
  | here {level selections fields key name below}
      (decides : Selection.Decides selections key name below) (notTypename : name ≠ typenameField)
      (typed : schema.nodeOutput? name level = some (output, resolved))
      (held : JsonObject.find? fields key = some value) :
      NodeValue schema output resolved value level selections (.object fields)
  | inside {level selections fields key name below outer own found id item}
      (decides : Selection.Decides selections key name below) (notTypename : name ≠ typenameField)
      (typed : schema.nodeOutput? name level = some (outer, own))
      (held : JsonObject.find? fields key = some found)
      (target : outer.objectId? = some id) (member : item ∈ responseObjects found)
      (deeper : NodeValue schema output resolved value (some id) below item) :
      NodeValue schema output resolved value level selections (.object fields)

/-- A record that holds what the fields of an object promise: the fields without resolver
have the shape of their outputs, in the record and in all records inside it. -/
inductive RecordFits (schema : Schema R) : Nat → Record → Prop
  | intro {id : Nat} {record : Record}
      (shaped : ∀ name field target value, (schema.object id).field? name = some field →
        field.resolver = none → field.output.objectId? = some target →
        JsonObject.find? record name = some value → Shaped field.output.isList value)
      (inside : ∀ name field target value, (schema.object id).field? name = some field →
        field.resolver = none → field.output.objectId? = some target →
        JsonObject.find? record name = some value →
        ∀ nested ∈ heldRecords (some value), RecordFits schema target nested) :
      RecordFits schema id record

namespace RecordFits

variable {schema : Schema R} {id target : Nat} {record : Record} {name : String}
  {field : SchemaField R}

theorem singular (fits : RecordFits schema id record)
    (found : (schema.object id).field? name = some field) (unresolved : field.resolver = none)
    (targeted : field.output.objectId? = some target) {nested : Record}
    (held : JsonObject.find? record name = some (.object nested)) :
    field.output.isList = false := by
  obtain ⟨shaped, -⟩ := fits
  have shape := shaped name field target _ found unresolved targeted held
  cases isList : field.output.isList with
  | false => rfl
  | true =>
      rw [isList] at shape
      cases shape

theorem plural (fits : RecordFits schema id record)
    (found : (schema.object id).field? name = some field) (unresolved : field.resolver = none)
    (targeted : field.output.objectId? = some target) {items : List Json}
    (held : JsonObject.find? record name = some (.array items)) :
    field.output.isList = true := by
  obtain ⟨shaped, -⟩ := fits
  have shape := shaped name field target _ found unresolved targeted held
  cases isList : field.output.isList with
  | true => rfl
  | false =>
      rw [isList] at shape
      cases shape

theorem nested (fits : RecordFits schema id record)
    (found : (schema.object id).field? name = some field) (unresolved : field.resolver = none)
    (targeted : field.output.objectId? = some target) {value : Json} {inner : Record}
    (held : JsonObject.find? record name = some value)
    (member : inner ∈ heldRecords (some value)) : RecordFits schema target inner := by
  obtain ⟨-, inside⟩ := fits
  exact inside name field target value found unresolved targeted held inner member

end RecordFits

end Occurrences

variable {World : Type}

def ReturnsFitting (schema : Schema (Resolver World)) (resolver : Resolver World)
    (id : Nat) : Prop :=
  ∀ params state records after, resolver params state = (.ok records, after) →
    ∀ record ∈ records, schema.RecordFits id record

/-- A schema whose resolvers only return records that fit the objects they stand for. -/
structure Faithful (schema : Schema (Resolver World)) : Prop where
  roots : ∀ root ∈ schema.roots, ∀ id, root.output.objectId? = some id →
    schema.ReturnsFitting root.resolver id
  fields : ∀ object ∈ schema.objects, ∀ field ∈ object.fields, ∀ resolver id,
    field.resolver = some resolver → field.output.objectId? = some id →
      schema.ReturnsFitting resolver id

end Schema

namespace Execution

variable {World : Type} {schema : Schema (Resolver World)} {bindings : JsonObject}

/-- Among answered selections each one has its entry, with the keys of the later ones after
it. -/
theorem AnswersSelections.split {object : ObjectType (Resolver World)} {record : Record}
    {front back : List Selection} {selection : Selection} {before after : Progress World}
    {entries : List (String × Json)}
    (answered : AnswersSelections schema bindings object record (front ++ selection :: back)
      before entries after) :
    ∃ first entry last middle next, entries = first ++ entry :: last ∧
      last.map Prod.fst = back.filterMap Selection.key? ∧
      AnswersSelection schema bindings object record selection middle entry next := by
  induction front generalizing before entries with
  | nil =>
      cases answered with
      | cons first rest => exact ⟨[], _, _, _, _, rfl, rest.keys, first⟩
  | cons head front ih =>
      cases answered with
      | cons _ rest =>
          obtain ⟨first, entry, last, middle, next, rfl, keys, found⟩ := ih rest
          exact ⟨_ :: first, entry, last, middle, next, rfl, keys, found⟩

theorem AnswersRoots.split {front back : List Selection} {selection : Selection}
    {before after : Progress World} {entries : List (String × Json)}
    (answered : AnswersRoots schema bindings (front ++ selection :: back) before entries
      after) :
    ∃ first entry last middle next, entries = first ++ entry :: last ∧
      last.map Prod.fst = back.filterMap Selection.key? ∧
      AnswersRoot schema bindings selection middle entry next := by
  induction front generalizing before entries with
  | nil =>
      cases answered with
      | cons first rest => exact ⟨[], _, _, _, _, rfl, rest.keys, first⟩
  | cons head front ih =>
      cases answered with
      | cons _ rest =>
          obtain ⟨first, entry, last, middle, next, rfl, keys, found⟩ := ih rest
          exact ⟨_ :: first, entry, last, middle, next, rfl, keys, found⟩

theorem AnswersObjects.exists_of_mem {object : ObjectType (Resolver World)}
    {selections : List Selection} {records : List Record} {before after : Progress World}
    {values : List Json}
    (answered : AnswersObjects schema bindings object selections records before values after)
    {value : Json} (member : value ∈ values) :
    ∃ record ∈ records, ∃ earlier later,
      AnswersObject schema bindings object selections record earlier value later := by
  induction records generalizing before values with
  | nil =>
      cases answered
      cases member
  | cons record records ih =>
      cases answered with
      | cons first rest =>
          rcases List.mem_cons.mp member with rfl | member
          · exact ⟨record, List.mem_cons_self, _, _, first⟩
          · obtain ⟨other, otherMem, answered⟩ := ih rest member
            exact ⟨other, List.mem_cons_of_mem _ otherMem, answered⟩

/-- What is known of the value that a selected node gives: its shape, and that every object in
it answers the selections below for a record. -/
structure NodeAnswered (schema : Schema (Resolver World)) (bindings : JsonObject)
    (output : OutputType) (resolved : Bool) (below : List Selection) (value : Json) :
    Prop where
  shaped : ∃ isList, Shaped isList value
  declared : resolved = true ∨ schema.Faithful → Shaped output.isList value
  inside : ∀ id, output.objectId? = some id → ∀ item ∈ Schema.responseObjects value,
    item = .null ∨ ∃ record earlier later,
      (schema.Faithful → schema.RecordFits id record) ∧
        AnswersObject schema bindings (schema.object id) below record earlier item later

/-- An answered selection set gives an object. -/
theorem AnswersObject.exists_fields {object : ObjectType (Resolver World)}
    {selections : List Selection} {record : Record} {before after : Progress World}
    {value : Json}
    (answered : AnswersObject schema bindings object selections record before value after) :
    ∃ fields, value = .object fields := by
  cases answered
  exact ⟨_, rfl⟩

theorem nodeAnswered_of_single {output : OutputType} {resolved : Bool}
    {below : List Selection} {id : Nat} {record : Record} {before after : Progress World}
    {value : Json} (target : output.objectId? = some id)
    (singular : resolved = true ∨ schema.Faithful → output.isList = false)
    (fits : schema.Faithful → schema.RecordFits id record)
    (answered : AnswersObject schema bindings (schema.object id) below record before value
      after) :
    NodeAnswered schema bindings output resolved below value := by
  obtain ⟨fields, rfl⟩ := answered.exists_fields
  refine ⟨⟨false, .object fields⟩, fun trusted => singular trusted ▸ .object fields, ?_⟩
  intro other otherTarget item member
  obtain rfl : id = other := by simpa [target] using otherTarget
  obtain rfl : item = .object fields := by simpa [Schema.responseObjects] using member
  exact .inr ⟨record, before, after, fits, answered⟩

theorem nodeAnswered_of_list {output : OutputType} {resolved : Bool}
    {below : List Selection} {id : Nat} {records : List Record}
    {before after : Progress World} {values : List Json}
    (target : output.objectId? = some id)
    (plural : resolved = true ∨ schema.Faithful → output.isList = true)
    (fits : schema.Faithful → ∀ record ∈ records, schema.RecordFits id record)
    (answered : AnswersObjects schema bindings (schema.object id) below records before values
      after) :
    NodeAnswered schema bindings output resolved below (.array values) := by
  refine ⟨⟨true, .array values⟩, fun trusted => plural trusted ▸ .array values, ?_⟩
  intro other otherTarget item member
  obtain rfl : id = other := by simpa [target] using otherTarget
  obtain ⟨record, recordMem, earlier, later, itemAnswered⟩ := answered.exists_of_mem member
  exact .inr ⟨record, earlier, later, fun faithful => fits faithful record recordMem,
    itemAnswered⟩

theorem nodeAnswered_null (output : OutputType) (resolved : Bool) (below : List Selection) :
    NodeAnswered schema bindings output resolved below .null := by
  refine ⟨⟨false, .null false⟩, fun _ => .null _, fun _ _ item member => .inl ?_⟩
  simpa [Schema.responseObjects] using member

/-- A resolver of its own gives a node the shape of its output, whatever it returns. -/
theorem nodeAnswered_of_answersNode {node : NodeField World}
    {arguments : List (String × Literal)} {below : List Selection} {parent : Option Record}
    {before after : Progress World} {value : Json}
    (returns : schema.Faithful → ∀ id, node.output.objectId? = some id →
      schema.ReturnsFitting node.resolver id)
    (answered : AnswersNode schema bindings node arguments below parent before value after) :
    NodeAnswered schema bindings node.output true below value := by
  cases answered with
  | list isList called objects =>
      obtain ⟨target, _, _, _, _, called⟩ := called
      exact nodeAnswered_of_list target (fun _ => isList)
        (fun faithful => returns faithful _ target _ _ _ _ called.returned) objects
  | first singular called object =>
      obtain ⟨target, _, _, _, _, called⟩ := called
      exact nodeAnswered_of_single target (fun _ => singular)
        (fun faithful => returns faithful _ target _ _ _ _ called.returned _
          List.mem_cons_self) object
  | none singular called => exact nodeAnswered_null _ _ _

theorem nodeAnswered_of_answersSelection {id : Nat} {record : Record}
    {renamed : Option String} {name : String} {arguments : List (String × Literal)}
    {below : List Selection} {output : OutputType} {resolved : Bool}
    {before after : Progress World} {entry : String × Json}
    (notTypename : name ≠ typenameField)
    (typed : schema.nodeOutput? name (some id) = some (output, resolved))
    (fits : schema.Faithful → schema.RecordFits id record)
    (answered : AnswersSelection schema bindings (schema.object id) record
      (.field renamed name arguments below) before entry after) :
    NodeAnswered schema bindings output resolved below entry.2 := by
  simp only [Schema.nodeOutput?, Option.bind_eq_bind, Option.bind_eq_some_iff,
    Option.pure_def, Option.some.injEq, Prod.mk.injEq] at typed
  obtain ⟨field, found, target, targeted, rfl, rfl⟩ := typed
  cases answered with
  | typename => exact absurd rfl notTypename
  | scalarRead _ otherFound scalar _ _ =>
      obtain rfl := Option.some.inj (found.symm.trans otherFound)
      simp [scalar] at targeted
  | scalarResolved _ otherFound scalar _ _ _ =>
      obtain rfl := Option.some.inj (found.symm.trans otherFound)
      simp [scalar] at targeted
  | nodeResolved _ otherFound owned answered =>
      obtain rfl := Option.some.inj (found.symm.trans otherFound)
      rw [owned]
      exact nodeAnswered_of_answersNode (fun faithful other otherTarget =>
        faithful.fields _ (Schema.mem_objects_of_field? found) _ (List.mem_of_find?_eq_some found)
          _ other owned otherTarget) answered
  | nodeAbsent _ _ _ _ _ => exact nodeAnswered_null _ _ _
  | nodeObject _ otherFound otherTarget unresolved held answered =>
      obtain rfl := Option.some.inj (found.symm.trans otherFound)
      rw [unresolved]
      refine nodeAnswered_of_single otherTarget ?_ ?_ answered
      · rintro (impossible | faithful)
        · cases impossible
        · exact (fits faithful).singular found unresolved otherTarget held
      · exact fun faithful => (fits faithful).nested found unresolved otherTarget held
          List.mem_cons_self
  | nodeList _ otherFound otherTarget unresolved held answered =>
      obtain rfl := Option.some.inj (found.symm.trans otherFound)
      rw [unresolved]
      refine nodeAnswered_of_list otherTarget ?_ ?_ answered
      · rintro (impossible | faithful)
        · cases impossible
        · exact (fits faithful).plural found unresolved otherTarget held
      · intro faithful nested member
        exact (fits faithful).nested found unresolved otherTarget held
          ((heldRecords_array _).symm ▸ member)

/-- Under the key of a deciding selection an object holds what that selection gave. -/
theorem AnswersObject.held {id : Nat} {record : Record} {selections below : List Selection}
    {key name : String} {fields : JsonObject} {value : Json} {before after : Progress World}
    (answered : AnswersObject schema bindings (schema.object id) selections record before
      (.object fields) after)
    (decides : Selection.Decides selections key name below)
    (held : JsonObject.find? fields key = some value) :
    ∃ renamed arguments earlier entry later, entry.2 = value ∧
      AnswersSelection schema bindings (schema.object id) record
        (.field renamed name arguments below) earlier entry later := by
  cases decides with
  | last front renamed _ arguments _ back unrepeated =>
      cases answered with
      | intro answered _ last =>
          obtain ⟨first, entry, rest, earlier, later, rfl, keys, answered⟩ := answered.split
          have named : Selection.responseKey renamed name = entry.1 :=
            Option.some.inj answered.key
          rw [named] at unrepeated held
          exact ⟨renamed, arguments, earlier, entry, later,
            last.value_eq (keys ▸ unrepeated) held, answered⟩

theorem AnswersQuery.held {selections below : List Selection} {key name : String}
    {fields : JsonObject} {value : Json} {before after : Progress World}
    (answered : AnswersQuery schema bindings selections before (.object fields) after)
    (decides : Selection.Decides selections key name below)
    (held : JsonObject.find? fields key = some value) :
    ∃ renamed arguments earlier entry later, entry.2 = value ∧
      AnswersRoot schema bindings (.field renamed name arguments below) earlier entry
        later := by
  cases decides with
  | last front renamed _ arguments _ back unrepeated =>
      cases answered with
      | intro answered _ last =>
          obtain ⟨first, entry, rest, earlier, later, rfl, keys, answered⟩ := answered.split
          have named : Selection.responseKey renamed name = entry.1 :=
            Option.some.inj answered.key
          rw [named] at unrepeated held
          exact ⟨renamed, arguments, earlier, entry, later,
            last.value_eq (keys ▸ unrepeated) held, answered⟩

theorem nodeAnswered_of_answersRoot {renamed : Option String} {name : String}
    {arguments : List (String × Literal)} {below : List Selection} {output : OutputType}
    {resolved : Bool} {before after : Progress World} {entry : String × Json}
    (notTypename : name ≠ typenameField)
    (typed : schema.nodeOutput? name none = some (output, resolved))
    (answered : AnswersRoot schema bindings (.field renamed name arguments below) before entry
      after) :
    NodeAnswered schema bindings output resolved below entry.2 := by
  cases answered with
  | typename => exact absurd rfl notTypename
  | node _ found answered =>
      simp only [Schema.nodeOutput?, found, Option.map_some, Option.some.injEq,
        Prod.mk.injEq] at typed
      obtain ⟨rfl, rfl⟩ := typed
      exact nodeAnswered_of_answersNode (fun faithful other otherTarget =>
        faithful.roots _ (List.mem_of_find?_eq_some found) other otherTarget) answered

/-- What is answered at a level: the whole query, or the object at a position for a record
that it stands for. -/
def AnswersLevel (schema : Schema (Resolver World)) (bindings : JsonObject)
    (selections : List Selection) (data : Json) : Option Nat → Prop
  | none => ∃ before after, AnswersQuery schema bindings selections before data after
  | some id => ∃ record before after, (schema.Faithful → schema.RecordFits id record) ∧
      AnswersObject schema bindings (schema.object id) selections record before data after

theorem AnswersLevel.node {level : Option Nat} {selections below : List Selection}
    {key name : String} {fields : JsonObject} {value : Json} {output : OutputType}
    {resolved : Bool}
    (answered : AnswersLevel schema bindings selections (.object fields) level)
    (decides : Selection.Decides selections key name below)
    (notTypename : name ≠ typenameField)
    (typed : schema.nodeOutput? name level = some (output, resolved))
    (held : JsonObject.find? fields key = some value) :
    NodeAnswered schema bindings output resolved below value := by
  cases level with
  | none =>
      obtain ⟨_, _, answered⟩ := answered
      obtain ⟨_, _, _, entry, _, rfl, answered⟩ := answered.held decides held
      exact nodeAnswered_of_answersRoot notTypename typed answered
  | some id =>
      obtain ⟨record, _, _, fits, answered⟩ := answered
      obtain ⟨_, _, _, entry, _, rfl, answered⟩ := answered.held decides held
      exact nodeAnswered_of_answersSelection notTypename typed fits answered

/-- Every node value in what is answered has a shape, and the declared one if its field is
resolved or all records fit, by induction on its depth. -/
theorem AnswersLevel.nodeValue {level : Option Nat} {selections : List Selection}
    {data value : Json} {output : OutputType} {resolved : Bool}
    (answered : AnswersLevel schema bindings selections data level)
    (occurs : schema.NodeValue output resolved value level selections data) :
    (∃ isList, Shaped isList value) ∧
      (resolved = true ∨ schema.Faithful → Shaped output.isList value) := by
  induction occurs with
  | here decides notTypename typed held =>
      have node := answered.node decides notTypename typed held
      exact ⟨node.shaped, node.declared⟩
  | inside decides notTypename typed held target member deeper ih =>
      have node := answered.node decides notTypename typed held
      rcases node.inside _ target _ member with rfl | nested
      · cases deeper
      · exact ih nested

end Execution

/-- In every response, at every depth, a node value is null, an array or an object.  It has
the shape of its output if its field has a resolver, and so do all node values if the
resolvers return records that hold what the fields promise. -/
theorem Schema.node_values_shaped {World : Type} {schema : Schema (Resolver World)}
    {request : QueryRequest} {before after : Progress World} {data : Json}
    (executed : schema.execute request before = (.ok data, after)) :
    ∃ selections bindings, Schema.prepare request = .ok (selections, bindings) ∧
      ∀ output resolved value,
        schema.NodeValue output resolved value none selections data →
          (∃ isList, Shaped isList value) ∧
            (resolved = true ∨ schema.Faithful → Shaped output.isList value) := by
  have gives : Execution.Gives (schema.execute request) before data after := executed
  obtain ⟨⟨selections, bindings⟩, _, ready, gives⟩ := Execution.gives_bind.mp gives
  obtain ⟨prepared, rfl⟩ := Execution.gives_ofExcept.mp ready
  obtain ⟨entries, _, answered, returned⟩ := Execution.gives_bind.mp gives
  obtain ⟨rfl, rfl⟩ := Execution.gives_pure.mp returned
  have level : Execution.AnswersLevel schema bindings selections
      (.object (JsonObject.ofEntries entries)) none :=
    ⟨_, _, (Execution.answersRoots_of_gives answered).query⟩
  exact ⟨selections, bindings, prepared, fun _ _ _ occurs => level.nodeValue occurs⟩

namespace Library

/-- Records without fields that refer to nodes fit whatever they hold. -/
theorem fits_book (record : Record) : library.RecordFits 1 record := by
  have plain : ∀ name field target, (library.object 1).field? name = some field →
      field.output.objectId? ≠ some target := by
    intro name field target found
    have member : field ∈ book.fields := List.mem_of_find?_eq_some found
    fin_cases member <;> simp [OutputType.objectId?]
  exact .intro (fun _ _ _ _ found _ target => absurd target (plain _ _ _ found))
    (fun _ _ _ _ found _ target => absurd target (plain _ _ _ found))

theorem faithful_library : library.Faithful where
  roots := by
    intro root member id target
    obtain rfl := List.mem_singleton.mp member
    cases target
    intro params state records after returned record recordMem
    cases returned
    obtain rfl := List.mem_singleton.mp recordMem
    refine .intro ?_ ?_
    · intro name field target value found unresolved targeted held
      have member : field ∈ author.fields := List.mem_of_find?_eq_some found
      have named := ObjectType.name_of_field? found
      fin_cases member
      · cases targeted
      · subst named
        obtain rfl : _ = value := Option.some.inj held
        exact .array _
      · cases unresolved
    · intro name field target value found unresolved targeted held nested _
      have member : field ∈ author.fields := List.mem_of_find?_eq_some found
      fin_cases member
      · cases targeted
      · cases targeted
        exact fits_book nested
      · cases unresolved
  fields := by
    intro object objectMem field fieldMem resolver id resolved target
    fin_cases objectMem
    · fin_cases fieldMem
      · cases resolved
      · cases resolved
      · cases target
        exact fun _ _ _ _ _ record _ => fits_book record
    · fin_cases fieldMem <;> cases target

def authorBooks : Json :=
  .array [.object [("pages", Json.ofInt 474), ("title", .string "Persuasion")]]

def authors : Json :=
  .object [("kind", .string "Query"),
    ("authors", .array [.object [("id", .string "Author"),
      ("best", .object [("title", .string "Emma")]), ("books", authorBooks)]])]

def requestTokens : List Token :=
  [.punctuator '\x7b', .name "kind", .punctuator ':', .name "__typename", .name "authors",
    .punctuator '(', .name "limit", .punctuator ':', .punctuator '\x7b', .name "count",
    .punctuator ':', .int 1, .punctuator '\x7d', .punctuator ')', .punctuator '\x7b', .name "id",
    .punctuator ':', .name "name", .name "best", .punctuator '\x7b', .name "title",
    .punctuator '\x7d', .name "id", .punctuator ':', .name "__typename", .name "books",
    .punctuator '\x7b', .name "pages", .name "title", .punctuator '\x7d', .punctuator '\x7d',
    .punctuator '\x7d']

def authorSelections : List Selection :=
  [.field (some "id") "name" [] [], .field none "best" [] [.field none "title" [] []],
    .field (some "id") typenameField [] [],
    .field none "books" [] [.field none "pages" [] [], .field none "title" [] []]]

def rootSelections : List Selection :=
  [.field (some "kind") typenameField [] [],
    .field none "authors" [("limit", .object [("count", .int 1)])] authorSelections]

theorem books_occur :
    library.NodeValue (.list (.object 1)) false authorBooks none rootSelections authors := by
  refine .inside (.last [.field (some "kind") typenameField [] []] none "authors" _
    authorSelections [] List.not_mem_nil) (by decide) rfl rfl rfl List.mem_cons_self ?_
  exact .here (.last (authorSelections.take 3) none "books" [] _ [] List.not_mem_nil)
    (by decide) rfl rfl

/-- The books that are read from the author are an array, as declared. -/
theorem books_of_author_shaped :
    ∃ after bindings, library.execute request start = (.ok authors, after) ∧
      Schema.prepare request = .ok (rootSelections, bindings) ∧
      library.NodeValue (.list (.object 1)) false authorBooks none rootSelections authors ∧
      library.Faithful ∧ Shaped true authorBooks := by
  have divided : Token.tokenize? request.query = some requestTokens := by decide +kernel
  have parsed : QueryDocument.parse? request.query = some [.selectionSet rootSelections] := by
    rw [QueryDocument.parse?_of_tokenize? divided]
    rfl
  have prepared : Schema.prepare request = .ok (rootSelections, []) := by
    rw [Schema.prepare_of_parsed parsed]
    rfl
  have shown : (library.execute request start).1.toOption = some authors := by
    rw [Schema.execute_eq_executeDocument _ parsed]
    rfl
  rcases executed : library.execute request start with ⟨fault | data, after⟩
  · rw [executed] at shown
    cases shown
  · rw [executed] at shown
    obtain rfl : data = authors := Option.some.inj shown
    obtain ⟨selections, bindings, ready, shaped⟩ := Schema.node_values_shaped executed
    obtain ⟨rfl, rfl⟩ := Prod.mk.inj (Except.ok.inj (ready.symm.trans prepared))
    exact ⟨after, [], rfl, ready, books_occur, faithful_library,
      (shaped _ _ _ books_occur).2 (.inr faithful_library)⟩

end Library

namespace Faculty

/-- Departments, whose head is declared as a single person and read from the department. -/
def faculty : Catalog (Resolver Unit) :=
  .ofNodes
    [{ name := "departments"
       nodeType := "department"
       fields :=
         [{ name := "id", fieldType := .scalar .int },
           { name := "head", fieldType := .node "person", asList := some false }]
       resolver := fun _ state =>
         (.ok [[("id", Json.ofInt 1),
           ("head", .array [.object [("name", .string "ada")],
             .object [("name", .string "grace")]])]], state) },
     { name := "persons"
       nodeType := "person"
       fields := [{ name := "name", fieldType := .scalar .string }]
       resolver := fun _ state => (.ok [], state) }]
    .builtIn

def request : QueryRequest where
  query := "\x7b departments \x7b id head \x7b name \x7d \x7d \x7d"

def start : Progress Unit := ⟨⟨(), false⟩, []⟩

def requestTokens : List Token :=
  [.punctuator '\x7b', .name "departments", .punctuator '\x7b', .name "id", .name "head",
    .punctuator '\x7b', .name "name", .punctuator '\x7d', .punctuator '\x7d', .punctuator '\x7d']

def selections : List Selection :=
  [.field none "departments" []
    [.field none "id" [] [], .field none "head" [] [.field none "name" [] []]]]

def heads : Json := .array [.object [("name", .string "ada")], .object [("name", .string "grace")]]

/-- The response, and the declared outputs of the fields in it that refer to nodes. -/
def outcome : Option (Json × List (Option (OutputType × Bool))) :=
  match faculty.schema.1 with
  | .error _ => none
  | .ok schema =>
      (schema.execute request start).1.toOption.map fun data =>
        (data, [schema.nodeOutput? "departments" none, schema.nodeOutput? "head" (some 0)])

theorem singular_head_is_array :
    ∃ schema data after selections bindings, faculty.schema.1 = .ok schema ∧
      schema.execute request start = (.ok data, after) ∧
      Schema.prepare request = .ok (selections, bindings) ∧
      schema.NodeValue (.object 1) false heads none selections data ∧
      ¬ Shaped false heads := by
  have divided : Token.tokenize? request.query = some requestTokens := by decide +kernel
  have parsed : QueryDocument.parse? request.query = some [.selectionSet selections] := by
    rw [QueryDocument.parse?_of_tokenize? divided]
    rfl
  have prepared : Schema.prepare request = .ok (selections, []) := by
    rw [Schema.prepare_of_parsed parsed]
    rfl
  have shown : outcome = some
      (.object [("departments", .array [.object [("id", Json.ofInt 1), ("head", heads)]])],
        [some (.list (.object 0), true), some (.object 1, false)]) := by
    simp only [outcome, Schema.execute_eq_executeDocument _ parsed]
    rfl
  unfold outcome at shown
  split at shown
  · cases shown
  · rename_i schema built
    rcases executed : schema.execute request start with ⟨fault | data, after⟩
    · rw [executed] at shown
      cases shown
    · rw [executed] at shown
      simp only [Except.toOption, Option.map_some, Option.some.injEq, Prod.mk.injEq,
        List.cons.injEq, and_true] at shown
      obtain ⟨rfl, outer, inner⟩ := shown
      refine ⟨schema, _, after, _, _, built, executed, prepared, ?_, fun shaped => by cases shaped⟩
      refine .inside (.last [] none "departments" [] _ [] List.not_mem_nil) (by decide) outer rfl
        rfl List.mem_cons_self ?_
      exact .here (.last [.field none "id" [] []] none "head" [] _ [] List.not_mem_nil) (by decide)
        inner rfl

end Faculty

end NodeGraph
