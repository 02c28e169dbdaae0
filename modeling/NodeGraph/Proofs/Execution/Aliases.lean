import NodeGraph.Proofs.Execution.Conformance
import NodeGraph.Proofs.Execution.Documents
import NodeGraph.Proofs.Execution.TwoRuns

/-!
# Aliases

An alias is the key under which a field is answered, and execution asks for it nowhere else.
Two documents that differ in their aliases only are therefore executed by the same calls, fail
with the same error, and have responses that differ in their keys only.
-/

namespace NodeGraph

namespace JsonObject

theorem insert_of_not_mem {key : String} {fields : JsonObject} (value : Json)
    (new : key ∉ fields.map Prod.fst) : insert key value fields = fields ++ [(key, value)] := by
  induction fields with
  | nil => rfl
  | cons entry rest ih =>
      rw [List.map_cons, List.mem_cons, not_or] at new
      rw [insert, if_neg (Ne.symm new.1), ih new.2, List.cons_append]

/-- An object that is written without repeating a key is its entries. -/
theorem ofEntries_of_nodup {entries : List (String × Json)}
    (nodup : (entries.map Prod.fst).Nodup) : ofEntries entries = entries := by
  induction entries using List.reverseRecOn with
  | nil => rfl
  | append_singleton entries entry ih =>
      rw [List.map_append, List.nodup_append] at nodup
      obtain ⟨earlier, -, apart⟩ := nodup
      rw [ofEntries_concat, ih earlier, insert_of_not_mem]
      intro member
      exact apart _ member _ (by simp) rfl

end JsonObject

namespace Selection

mutual

/-- The selection without aliases, at any depth. -/
def unaliased : Selection → Selection
  | .field _ name arguments selections => .field none name arguments (unaliasedAll selections)
  | .fragmentSpread name => .fragmentSpread name
  | .inlineFragment typeCondition selections =>
      .inlineFragment typeCondition (unaliasedAll selections)

def unaliasedAll : List Selection → List Selection
  | [] => []
  | selection :: rest => unaliased selection :: unaliasedAll rest

end

mutual

/-- Within the selection set of the field, and within each one below it, no key is repeated. -/
def KeysDistinct : Selection → Prop
  | .field _ _ _ selections => AllKeysDistinct selections
  | .fragmentSpread _ => True
  | .inlineFragment _ selections => AllKeysDistinct selections

def AllKeysDistinct : List Selection → Prop
  | [] => True
  | selection :: rest =>
      (∀ key ∈ selection.key?, key ∉ rest.filterMap key?) ∧ selection.KeysDistinct ∧
        AllKeysDistinct rest

end

theorem nodup_keys {selections : List Selection} (distinct : AllKeysDistinct selections) :
    (selections.filterMap key?).Nodup := by
  induction selections with
  | nil => exact List.nodup_nil
  | cons selection rest ih =>
      obtain ⟨new, -, later⟩ := distinct
      rw [List.filterMap_cons]
      split
      · exact ih later
      · rename_i key keyed
        exact List.nodup_cons.mpr ⟨new key keyed, ih later⟩

/-- Selections that are alike without aliases begin with fields of the same name and the same
arguments, whose own selections are alike. -/
theorem field_of_unaliased {renamed : Option String} {name : String}
    {arguments : List (String × Literal)} {selections : List Selection} {other : Selection}
    (same : (Selection.field renamed name arguments selections).unaliased = other.unaliased) :
    ∃ renamedToo below, other = .field renamedToo name arguments below ∧
      unaliasedAll selections = unaliasedAll below := by
  cases other with
  | field renamedToo nameToo argumentsToo below =>
      simp only [unaliased, Selection.field.injEq, true_and] at same
      obtain ⟨rfl, rfl, same⟩ := same
      exact ⟨renamedToo, below, rfl, same⟩
  | fragmentSpread => cases same
  | inlineFragment => cases same

theorem cons_of_unaliasedAll {selection : Selection} {rest others : List Selection}
    (same : unaliasedAll (selection :: rest) = unaliasedAll others) :
    ∃ other more, others = other :: more ∧ selection.unaliased = other.unaliased ∧
      unaliasedAll rest = unaliasedAll more := by
  cases others with
  | nil => cases same
  | cons other more =>
      obtain ⟨first, later⟩ := List.cons.inj same
      exact ⟨other, more, rfl, first, later⟩

theorem nil_of_unaliasedAll {others : List Selection}
    (same : unaliasedAll [] = unaliasedAll others) : others = [] := by
  cases others with
  | nil => rfl
  | cons other more => cases same

end Selection

open Selection

mutual

/-- A value that was answered for the first selections holds, under their keys, what another
one holds under the keys of the second. -/
inductive Renames : List Selection → List Selection → Json → Json → Prop
  | scalar {value} : Renames [] [] value value
  | null {first second} : Renames first second .null .null
  | array {first second items others} (each : RenamesItems first second items others) :
      Renames first second (.array items) (.array others)
  | object {first second fields others} (each : RenamesFields first second fields others) :
      Renames first second (.object fields) (.object others)

inductive RenamesItems : List Selection → List Selection → List Json → List Json → Prop
  | nil {first second} : RenamesItems first second [] []
  | cons {first second value other items others} (head : Renames first second value other)
      (rest : RenamesItems first second items others) :
      RenamesItems first second (value :: items) (other :: others)

/-- The fields of two objects, selection by selection. -/
inductive RenamesFields : List Selection → List Selection → JsonObject → JsonObject → Prop
  | nil : RenamesFields [] [] [] []
  | typename {renamed renamedToo arguments below belowToo value first second fields others}
      (rest : RenamesFields first second fields others) :
      RenamesFields (.field renamed typenameField arguments below :: first)
        (.field renamedToo typenameField arguments belowToo :: second)
        ((responseKey renamed typenameField, value) :: fields)
        ((responseKey renamedToo typenameField, value) :: others)
  | field {renamed renamedToo name arguments below belowToo value other first second fields others}
      (head : Renames below belowToo value other)
      (rest : RenamesFields first second fields others) :
      RenamesFields (.field renamed name arguments below :: first)
        (.field renamedToo name arguments belowToo :: second)
        ((responseKey renamed name, value) :: fields)
        ((responseKey renamedToo name, other) :: others)

end

/-- Entries that are answered for two selections: their values are renamed, as long as no key
below them is repeated. -/
inductive EntryRenamed : Selection → Selection → String × Json → String × Json → Prop
  | typename {renamed renamedToo arguments below belowToo value} :
      EntryRenamed (.field renamed typenameField arguments below)
        (.field renamedToo typenameField arguments belowToo)
        (responseKey renamed typenameField, value) (responseKey renamedToo typenameField, value)
  | field {renamed renamedToo name arguments below belowToo value other}
      (renames : AllKeysDistinct below → AllKeysDistinct belowToo →
        Renames below belowToo value other) :
      EntryRenamed (.field renamed name arguments below) (.field renamedToo name arguments belowToo)
        (responseKey renamed name, value) (responseKey renamedToo name, other)

inductive EntriesRenamed : List Selection → List Selection → List (String × Json) →
    List (String × Json) → Prop
  | nil : EntriesRenamed [] [] [] []
  | cons {selection selectionToo first second entry entryToo entries others}
      (head : EntryRenamed selection selectionToo entry entryToo)
      (rest : EntriesRenamed first second entries others) :
      EntriesRenamed (selection :: first) (selectionToo :: second) (entry :: entries)
        (entryToo :: others)

namespace EntriesRenamed

variable {first second : List Selection} {entries others : List (String × Json)}

theorem keys (renamed : EntriesRenamed first second entries others) :
    entries.map Prod.fst = first.filterMap key? ∧ others.map Prod.fst = second.filterMap key? := by
  induction renamed with
  | nil => exact ⟨rfl, rfl⟩
  | cons head rest ih =>
      cases head <;> simp [key?, ih.1, ih.2]

theorem fields (renamed : EntriesRenamed first second entries others)
    (distinct : AllKeysDistinct first) (distinctToo : AllKeysDistinct second) :
    RenamesFields first second entries others := by
  induction renamed with
  | nil => exact .nil
  | cons head rest ih =>
      obtain ⟨-, below, later⟩ := distinct
      obtain ⟨-, belowToo, laterToo⟩ := distinctToo
      cases head with
      | typename => exact .typename (ih later laterToo)
      | field renames => exact .field (renames below belowToo) (ih later laterToo)

/-- The objects of the entries hold the same values under keys that are renamed. -/
theorem object (renamed : EntriesRenamed first second entries others)
    (distinct : AllKeysDistinct first) (distinctToo : AllKeysDistinct second) :
    Renames first second (Execution.answeredObject entries) (Execution.answeredObject others) := by
  have whole : ∀ {entries : List (String × Json)} {selections : List Selection},
      AllKeysDistinct selections → entries.map Prod.fst = selections.filterMap key? →
        JsonObject.ofEntries entries = entries := by
    intro entries selections unrepeated same
    exact JsonObject.ofEntries_of_nodup (same ▸ nodup_keys unrepeated)
  rw [Execution.answeredObject, Execution.answeredObject, whole distinct renamed.keys.1,
    whole distinctToo renamed.keys.2]
  exact .object (renamed.fields distinct distinctToo)

end EntriesRenamed

namespace Execution

variable {World : Type} {schema : Schema (Resolver World)} {bindings : JsonObject}
  {first second : List Selection}

theorem selectedNames_unaliasedAll (selections : List Selection) :
    selectedNames (unaliasedAll selections) = selectedNames selections := by
  have names : (unaliasedAll selections).mapM fieldName = selections.mapM fieldName := by
    induction selections with
    | nil => rfl
    | cons selection rest ih =>
        have same : fieldName selection.unaliased = fieldName selection := by
          cases selection <;> rfl
        rw [unaliasedAll, List.mapM_cons, List.mapM_cons, same, ih]
  rw [selectedNames, selectedNames, names]

theorem selectedNames_congr (same : unaliasedAll first = unaliasedAll second) :
    selectedNames first = selectedNames second := by
  rw [← selectedNames_unaliasedAll first, same, selectedNames_unaliasedAll]

theorem isEmpty_congr (same : unaliasedAll first = unaliasedAll second) :
    first.isEmpty = second.isEmpty := by
  cases first <;> cases second <;> first | rfl | cases same

/-- Values that are renamed as long as no key is repeated. -/
def RenamesDistinct (first second : List Selection) (value other : Json) : Prop :=
  AllKeysDistinct first → AllKeysDistinct second → Renames first second value other

theorem renamesItems_of_forall₂ {items others : List Json}
    (each : List.Forall₂ (RenamesDistinct first second) items others)
    (distinct : AllKeysDistinct first) (distinctToo : AllKeysDistinct second) :
    RenamesItems first second items others := by
  induction each with
  | nil => exact .nil
  | cons head _ ih => exact .cons (head distinct distinctToo) ih

theorem alike_shape {isList : Bool} {records : List Record}
    {complete completeToo : Record → Execution World Json}
    (each : ∀ record, Alike (RenamesDistinct first second) (complete record)
      (completeToo record)) :
    Alike (RenamesDistinct first second) (shape isList records complete)
      (shape isList records completeToo) := by
  unfold shape
  split
  · refine (Alike.mapM each).bind fun items others renamed => alike_pure ?_
    exact fun distinct distinctToo => .array (renamesItems_of_forall₂ renamed distinct distinctToo)
  · cases records with
    | nil => exact alike_pure fun _ _ => .null
    | cons record rest => exact each record

section Fields

variable {complete completeToo : ObjectType (Resolver World) → Record → Execution World Json}
  (same : unaliasedAll first = unaliasedAll second)
  (each : ∀ object record, Alike (RenamesDistinct first second) (complete object record)
    (completeToo object record))

include each

theorem alike_copyNode {field typeName : String} {found : Option Json}
    (object : ObjectType (Resolver World)) :
    Alike (RenamesDistinct first second) (copyNode field typeName found (complete object))
      (copyNode field typeName found (completeToo object)) := by
  unfold copyNode
  split
  · exact alike_pure fun _ _ => .null
  · exact alike_pure fun _ _ => .null
  · exact each object _
  · exact .after fun records => alike_shape (each object)
  · exact alike_throw _

include same

theorem alike_resolveNode {field : String} {resolver : Resolver World}
    {accepted : List ArgumentDefinition} {output : OutputType}
    {arguments : List (String × Literal)} {parent : Option Record} :
    Alike (RenamesDistinct first second)
      (resolveNode schema bindings field resolver accepted output arguments first parent complete)
      (resolveNode schema bindings field resolver accepted output arguments second parent
        completeToo) := by
  unfold resolveNode
  rw [selectedNames_congr same]
  split
  · exact alike_throw _
  · refine .after fun given => .after fun names => .after fun records => ?_
    exact alike_shape (each _)

theorem alike_completeField {object : ObjectType (Resolver World)} {record : Record}
    {renamed renamedToo : Option String} {name : String} {arguments : List (String × Literal)}
    {field : SchemaField (Resolver World)} :
    Alike (EntryRenamed (.field renamed name arguments first)
        (.field renamedToo name arguments second))
      (completeField schema bindings object record (responseKey renamed name) name arguments first
        field complete)
      (completeField schema bindings object record (responseKey renamedToo name) name arguments
        second field completeToo) := by
  unfold completeField
  rw [isEmpty_congr same]
  split
  · split
    · exact alike_throw _
    · rename_i leaf
      rw [Bool.not_eq_true, Bool.not_eq_false', List.isEmpty_iff] at leaf
      subst leaf
      obtain rfl := nil_of_unaliasedAll same.symm
      exact .after fun given => .after fun value => alike_pure (.field fun _ _ => .scalar)
  · refine (alike_resolveNode same each).bind fun value other renames => ?_
    exact alike_pure (.field renames)
  · split
    · exact alike_throw _
    · refine (alike_copyNode each _).bind fun value other renames => ?_
      exact alike_pure (.field renames)

end Fields

mutual

theorem alike_completeSelection : ∀ (selection other : Selection)
    (object : ObjectType (Resolver World)) (record : Record),
    selection.unaliased = other.unaliased →
    Alike (EntryRenamed selection other)
      (completeSelection schema bindings object record selection)
      (completeSelection schema bindings object record other)
  | .fragmentSpread name, other, object, record, same => by
      cases other with
      | fragmentSpread nameToo =>
          obtain rfl := Selection.fragmentSpread.inj same
          rw [completeSelection]
          exact alike_throw _
      | field => cases same
      | inlineFragment => cases same
  | .inlineFragment typeCondition selections, other, object, record, same => by
      cases other with
      | inlineFragment =>
          rw [completeSelection, completeSelection]
          exact alike_throw _
      | field => cases same
      | fragmentSpread => cases same
  | .field renamed name arguments selections, other, object, record, same => by
      obtain ⟨renamedToo, below, rfl, sameBelow⟩ := field_of_unaliased same
      rw [completeSelection, completeSelection]
      split
      · rename_i typename
        subst typename
        exact alike_pure .typename
      · cases object.field? name with
        | none => exact alike_throw _
        | some field =>
            refine alike_completeField sameBelow fun nested found => ?_
            refine (alike_completeSelections selections below nested found sameBelow).bind ?_
            exact fun entries others renamed => alike_pure renamed.object

theorem alike_completeSelections : ∀ (selections others : List Selection)
    (object : ObjectType (Resolver World)) (record : Record),
    unaliasedAll selections = unaliasedAll others →
    Alike (EntriesRenamed selections others)
      (completeSelections schema bindings object record selections)
      (completeSelections schema bindings object record others)
  | [], others, object, record, same => by
      rw [nil_of_unaliasedAll same, completeSelections]
      exact alike_pure .nil
  | selection :: rest, others, object, record, same => by
      obtain ⟨other, more, rfl, head, later⟩ := cons_of_unaliasedAll same
      rw [completeSelections, completeSelections]
      refine (alike_completeSelection selection other object record head).bind
        fun entry entryToo first => ?_
      refine (alike_completeSelections rest more object record later).bind
        fun entries others renamed => ?_
      exact alike_pure (.cons first renamed)

end

theorem alike_rootSelection (selection other : Selection)
    (same : selection.unaliased = other.unaliased) :
    Alike (EntryRenamed selection other) (rootSelection schema bindings selection)
      (rootSelection schema bindings other) := by
  cases selection with
  | fragmentSpread name =>
      cases other with
      | fragmentSpread nameToo =>
          obtain rfl := Selection.fragmentSpread.inj same
          exact alike_throw _
      | field => cases same
      | inlineFragment => cases same
  | inlineFragment typeCondition selections =>
      cases other with
      | inlineFragment => exact alike_throw _
      | field => cases same
      | fragmentSpread => cases same
  | field renamed name arguments selections =>
      obtain ⟨renamedToo, below, rfl, sameBelow⟩ := field_of_unaliased same
      rw [rootSelection, rootSelection]
      split
      · rename_i typename
        subst typename
        exact alike_pure .typename
      · cases schema.root? name with
        | none => exact alike_throw _
        | some root =>
            refine (alike_resolveNode sameBelow fun object record => ?_).bind
              fun value other renames => alike_pure (.field renames)
            refine (alike_completeSelections selections below object record sameBelow).bind ?_
            exact fun entries others renamed => alike_pure renamed.object

theorem alike_rootSelections {selections others : List Selection}
    (same : unaliasedAll selections = unaliasedAll others) :
    Alike (RenamesDistinct selections others) (rootSelections schema bindings selections)
      (rootSelections schema bindings others) := by
  have each : Alike (EntriesRenamed selections others)
      (selections.mapM (rootSelection schema bindings))
      (others.mapM (rootSelection schema bindings)) := by
    induction selections generalizing others with
    | nil =>
        rw [nil_of_unaliasedAll same]
        exact alike_pure .nil
    | cons selection rest ih =>
        obtain ⟨other, more, rfl, head, later⟩ := cons_of_unaliasedAll same
        rw [List.mapM_cons, List.mapM_cons]
        refine (alike_rootSelection selection other head).bind fun entry entryToo first => ?_
        exact (ih later).bind fun entries others renamed => alike_pure (.cons first renamed)
  exact each.bind fun entries others renamed => alike_pure renamed.object

end Execution

/-- The document without aliases. -/
def QueryDocument.unaliased (document : QueryDocument) : QueryDocument :=
  document.mapSelections unaliasedAll

namespace Schema

variable {World : Type}

/-- Two requests for documents that differ in aliases only run the same operation under other
keys, or both run none for the same reason. -/
theorem prepare_unaliased {first second : QueryRequest} {document other : QueryDocument}
    (parsed : QueryDocument.parse? first.query = some document)
    (parsedToo : QueryDocument.parse? second.query = some other)
    (same : document.unaliased = other.unaliased)
    (named : second.operationName = first.operationName)
    (provided : second.provided = first.provided) :
    (∃ selections others bindings, prepare first = .ok (selections, bindings) ∧
      prepare second = .ok (others, bindings) ∧ unaliasedAll selections = unaliasedAll others) ∨
    ∃ fault, prepare first = .error fault ∧ prepare second = .error fault := by
  have chosen : (document.selectOperation first.operationName).map
        (QueryOperation.mapSelections unaliasedAll) =
      (other.selectOperation first.operationName).map
        (QueryOperation.mapSelections unaliasedAll) := by
    rw [← QueryDocument.selectOperation_mapSelections,
      ← QueryDocument.selectOperation_mapSelections]
    exact congrArg (fun document => document.selectOperation first.operationName) same
  rw [prepare_of_parsed parsed, prepare_of_parsed parsedToo, named, provided]
  cases selected : document.selectOperation first.operationName with
  | error fault =>
      cases selectedToo : other.selectOperation first.operationName with
      | error faultToo =>
          rw [selected, selectedToo] at chosen
          cases chosen
          exact .inr ⟨fault, rfl, rfl⟩
      | ok operation =>
          rw [selected, selectedToo] at chosen
          cases chosen
  | ok operation =>
      cases selectedToo : other.selectOperation first.operationName with
      | error faultToo =>
          rw [selected, selectedToo] at chosen
          cases chosen
      | ok operationToo =>
          rw [selected, selectedToo] at chosen
          obtain ⟨-, declared, below⟩ := QueryOperation.mk.inj (Except.ok.inj chosen)
          replace declared : operation.declared = operationToo.declared := declared
          cases bound : VariableDefinition.bind operation.declared first.provided with
          | error fault =>
              refine .inr ⟨fault, ?_, ?_⟩
              · simp [bound, bind, Except.bind]
              · simp [← declared, bound, bind, Except.bind]
          | ok bindings =>
              refine .inl ⟨operation.selections, operationToo.selections, bindings, ?_, ?_, below⟩
              · simp [bound, bind, Except.bind, pure, Except.pure]
              · simp [← declared, bound, bind, Except.bind, pure, Except.pure]

/-- Aliases only rename: requests whose documents differ in them make the same calls and fail
with the same error or both succeed.  If no selection set of what they run repeats a key, the
responses hold the same values under other keys. -/
theorem aliases_only_rename (schema : Schema (Resolver World)) {first second : QueryRequest}
    {document other : QueryDocument}
    (parsed : QueryDocument.parse? first.query = some document)
    (parsedToo : QueryDocument.parse? second.query = some other)
    (same : document.unaliased = other.unaliased)
    (named : second.operationName = first.operationName)
    (provided : second.provided = first.provided) (start : Progress World) :
    (schema.execute first start).2 = (schema.execute second start).2 ∧
    (∀ fault, (schema.execute first start).1 = .error fault ↔
      (schema.execute second start).1 = .error fault) ∧
    ∀ data renamed, (schema.execute first start).1 = .ok data →
      (schema.execute second start).1 = .ok renamed →
      ∃ selections others bindings, prepare first = .ok (selections, bindings) ∧
        prepare second = .ok (others, bindings) ∧
        (AllKeysDistinct selections → AllKeysDistinct others →
          Renames selections others data renamed) := by
  obtain ⟨selections, others, bindings, ready, readyToo, below⟩ | ⟨fault, refused, refusedToo⟩ :=
    prepare_unaliased parsed parsedToo same named provided
  · have runs : schema.execute first = Execution.rootSelections schema bindings selections := by
      rw [execute, ready]
      exact Execution.ofExcept_pure_bind _ _
    have runsToo : schema.execute second = Execution.rootSelections schema bindings others := by
      rw [execute, readyToo]
      exact Execution.ofExcept_pure_bind _ _
    rw [runs, runsToo]
    obtain ⟨data, renamed, after, gives, givesToo, renames⟩ | ⟨fault, after, fails, failsToo⟩ :=
      Execution.alike_rootSelections below start
    · unfold Execution.Gives at gives givesToo
      rw [gives, givesToo]
      refine ⟨rfl, fun fault => by simp, ?_⟩
      rintro _ _ ⟨⟩ ⟨⟩
      exact ⟨selections, others, bindings, ready, readyToo, renames⟩
    · unfold Execution.Fails at fails failsToo
      rw [fails, failsToo]
      exact ⟨rfl, fun fault => Iff.rfl, by rintro _ _ ⟨⟩⟩
  · have stops : schema.execute first start = (.error fault, start) := by
      rw [execute, refused]
      rfl
    have stopsToo : schema.execute second start = (.error fault, start) := by
      rw [execute, refusedToo]
      rfl
    rw [stops, stopsToo]
    exact ⟨rfl, fun _ => Iff.rfl, by rintro _ _ ⟨⟩⟩

end Schema

namespace Library

/-- Authors under an alias, with their names under one. -/
def writers : QueryRequest where
  query := "\x7b writers: authors \x7b called: name best \x7b title \x7d \x7d \x7d"

/-- The same authors, with their best book under an alias. -/
def favourites : QueryRequest where
  query := "\x7b authors \x7b name favourite: best \x7b title \x7d \x7d \x7d"

def writerTokens : List Token :=
  [.punctuator '\x7b', .name "writers", .punctuator ':', .name "authors", .punctuator '\x7b',
    .name "called", .punctuator ':', .name "name", .name "best", .punctuator '\x7b', .name "title",
    .punctuator '\x7d', .punctuator '\x7d', .punctuator '\x7d']

def favouriteTokens : List Token :=
  [.punctuator '\x7b', .name "authors", .punctuator '\x7b', .name "name", .name "favourite",
    .punctuator ':', .name "best", .punctuator '\x7b', .name "title", .punctuator '\x7d',
    .punctuator '\x7d', .punctuator '\x7d']

def writerSelections : List Selection :=
  [.field (some "writers") "authors" []
    [.field (some "called") "name" [] [], .field none "best" [] [.field none "title" [] []]]]

def favouriteSelections : List Selection :=
  [.field none "authors" []
    [.field none "name" [] [], .field (some "favourite") "best" [] [.field none "title" [] []]]]

/-- The two requests find the same book of the same author by the same calls. -/
theorem favourites_rename_writers :
    (library.execute writers start).2 = (library.execute favourites start).2 ∧
      ∃ data renamed, (library.execute writers start).1 = .ok data ∧
        (library.execute favourites start).1 = .ok renamed ∧
        data.compact = "\x7b\"writers\":[\x7b\"called\":\"Austen\"," ++
          "\"best\":\x7b\"title\":\"Emma\"\x7d\x7d]\x7d" ∧
        renamed.compact = "\x7b\"authors\":[\x7b\"name\":\"Austen\"," ++
          "\"favourite\":\x7b\"title\":\"Emma\"\x7d\x7d]\x7d" ∧
        Renames writerSelections favouriteSelections data renamed := by
  have divided : Token.tokenize? writers.query = some writerTokens := by decide +kernel
  have parsed : QueryDocument.parse? writers.query = some [.selectionSet writerSelections] := by
    rw [QueryDocument.parse?_of_tokenize? divided]
    rfl
  have dividedToo : Token.tokenize? favourites.query = some favouriteTokens := by decide +kernel
  have parsedToo : QueryDocument.parse? favourites.query =
      some [.selectionSet favouriteSelections] := by
    rw [QueryDocument.parse?_of_tokenize? dividedToo]
    rfl
  have shown : ((library.execute writers start).1.toOption.map Json.compact,
        (library.execute favourites start).1.toOption.map Json.compact) =
      (some ("\x7b\"writers\":[\x7b\"called\":\"Austen\"," ++
          "\"best\":\x7b\"title\":\"Emma\"\x7d\x7d]\x7d"),
        some ("\x7b\"authors\":[\x7b\"name\":\"Austen\"," ++
          "\"favourite\":\x7b\"title\":\"Emma\"\x7d\x7d]\x7d")) := by
    decide +kernel
  have ready : Schema.prepare writers = .ok (writerSelections, []) := by
    rw [Schema.prepare_of_parsed parsed]
    rfl
  have readyToo : Schema.prepare favourites = .ok (favouriteSelections, []) := by
    rw [Schema.prepare_of_parsed parsedToo]
    rfl
  obtain ⟨together, -, renames⟩ :=
    library.aliases_only_rename parsed parsedToo rfl rfl rfl start
  refine ⟨together, ?_⟩
  cases answered : (library.execute writers start).1 with
  | error fault =>
      rw [answered] at shown
      cases (Prod.mk.inj shown).1
  | ok data =>
      cases answeredToo : (library.execute favourites start).1 with
      | error fault =>
          rw [answeredToo] at shown
          cases (Prod.mk.inj shown).2
      | ok renamed =>
          rw [answered, answeredToo] at shown
          obtain ⟨text, textToo⟩ := Prod.mk.inj shown
          obtain ⟨selections, others, bindings, prepared, preparedToo, same⟩ :=
            renames data renamed answered answeredToo
          obtain ⟨rfl, rfl⟩ := Prod.mk.inj (Except.ok.inj (ready.symm.trans prepared))
          obtain ⟨rfl, -⟩ := Prod.mk.inj (Except.ok.inj (readyToo.symm.trans preparedToo))
          refine ⟨data, renamed, rfl, rfl, Option.some.inj text, Option.some.inj textToo,
            same ?_ ?_⟩
          · simp [writerSelections, AllKeysDistinct, KeysDistinct, key?, responseKey]
          · simp [favouriteSelections, AllKeysDistinct, KeysDistinct, key?, responseKey]

end Library

end NodeGraph
