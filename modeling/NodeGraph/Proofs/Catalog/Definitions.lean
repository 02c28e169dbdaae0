import NodeGraph.Proofs.Catalog.Refusal
import NodeGraph.Proofs.Schema.Documents
import NodeGraph.Proofs.Schema.Renaming

/-!
# What the document of a catalog defines

The fields of a built schema that refer to a node take the arguments of the node's object, and
their positions are those of objects, so the document of the schema writes all of it and is
closed.  The check of a schema compares the type names of nodes with each other only.  A
document defines a type once exactly if the type names of the nodes, the scalars of their
arguments and the names that are taken anyway are apart.
-/

namespace NodeGraph

variable {R : Type}

theorem Schema.lt_of_objectId? {schema : Schema R} {tag : String} {id : Nat}
    (found : schema.objectId? tag = some id) : id < schema.objects.length := by
  obtain ⟨offset, object, objectFound, _, position⟩ := getElem?_of_idFrom? found
  have bound := (List.getElem?_eq_some_iff.mp objectFound).1
  omega

namespace SchemaBuilt

variable {list : NodeList R} {schema : Schema R}

/-- The definitions of a node's arguments are those that its object has. -/
theorem exists_object_of_defined (built : SchemaBuilt list schema) {node : Node R}
    (registered : node ∈ list.nodes) {arguments : List ArgumentDefinition}
    (defined : ArgumentsDefined list.arguments node.arguments arguments) :
    ∃ object ∈ schema.objects, object.arguments = arguments := by
  obtain ⟨_, object, _, found, objectBuilt⟩ := built.found node registered
  exact ⟨object, List.mem_of_getElem? found, defined.unique objectBuilt.arguments⟩

theorem sound (built : SchemaBuilt list schema) : schema.Sound := by
  refine ⟨?_, ?_, ?_⟩
  · intro object held field declares id target
    have resolved := built.not_isDangling held declares
    simpa [Schema.isDangling, target] using resolved
  · intro root held id target
    obtain ⟨node, _, rootBuilt⟩ := exists_left_of_forall₂ built.roots held
    cases rootBuilt with
    | mk other arguments placed defined =>
        obtain rfl : other = id := by simpa using target
        exact Schema.lt_of_objectId? placed
  · intro argument has
    cases has with
    | object held takes => exact ⟨_, held, takes⟩
    | field held declares takes =>
        obtain ⟨node, _, objectBuilt⟩ := built.owned _ held
        obtain ⟨declared, _, fieldBuilt⟩ := exists_left_of_forall₂ objectBuilt.fields declares
        cases fieldBuilt with
        | scalar scalar type => cases takes
        | reference target id arguments type registered placed defined =>
            obtain ⟨object, objectHeld, same⟩ := built.exists_object_of_defined registered defined
            exact ⟨object, objectHeld, same ▸ takes⟩
    | root held takes =>
        obtain ⟨node, registered, rootBuilt⟩ := exists_left_of_forall₂ built.roots held
        cases rootBuilt with
        | mk id arguments placed defined =>
            obtain ⟨object, objectHeld, same⟩ := built.exists_object_of_defined registered defined
            exact ⟨object, objectHeld, same ▸ takes⟩

end SchemaBuilt

namespace Catalog

/-- The document of every schema that a reachable catalog gives writes all of the schema and
defines every type that it names. -/
theorem document_writes_schema {catalog : Catalog R} (reachable : catalog.Reachable)
    {schema : Schema R} (built : catalog.schema.1 = .ok schema) :
    schema.WritesDocument schema.document ∧ schema.document.Closed := by
  have writes := Schema.writesDocument_document (reachable.schemaBuilt built).sound
  exact ⟨writes, writes.closed⟩

theorem document_writes_organisation :
    organisation.Reachable ∧ ∃ schema, organisation.schema.1 = .ok schema ∧
      schema.WritesDocument schema.document ∧ schema.document.Closed := by
  obtain ⟨schema, built⟩ := exists_organisation_schema
  exact ⟨organisation_reachable, schema, built,
    document_writes_schema organisation_reachable built⟩

end Catalog

namespace NodeList

/-- The type names of the nodes. -/
def typeNames (list : NodeList R) : List String :=
  list.nodes.map fun node => Text.pascalCase node.nodeType

/-- The scalars that type the arguments of the nodes. -/
def scalarNames (list : NodeList R) : List String :=
  list.nodes.flatMap fun node => node.arguments.filterMap fun kind =>
    (list.arguments.fresh? kind).map Argument.scalarName

/-- The names that every document takes: that of the query type and those built in. -/
def takenNames : List String :=
  queryTypeName :: [ScalarType.string, .int, .float, .boolean].map ScalarType.name

/-- No name stands for two types. -/
structure NamesApart (list : NodeList R) : Prop where
  types : ∀ name ∈ list.typeNames, name ∉ takenNames
  scalars : ∀ name ∈ list.scalarNames, name ∉ takenNames
  apart : ∀ name ∈ list.typeNames, name ∉ list.scalarNames

instance (list : NodeList R) : Decidable list.NamesApart :=
  decidable_of_iff
    ((∀ name ∈ list.typeNames, name ∉ takenNames) ∧
      (∀ name ∈ list.scalarNames, name ∉ takenNames) ∧
      ∀ name ∈ list.typeNames, name ∉ list.scalarNames)
    ⟨fun all => ⟨all.1, all.2.1, all.2.2⟩, fun apart => ⟨apart.types, apart.scalars, apart.apart⟩⟩

theorem mem_takenNames_iff {name : String} :
    name ∈ takenNames ↔ name = queryTypeName ∨ ∃ scalar : ScalarType, scalar.name = name := by
  constructor
  · intro taken
    rcases List.mem_cons.mp taken with query | builtIn
    · exact .inl query
    · obtain ⟨scalar, _, named⟩ := List.mem_map.mp builtIn
      exact .inr ⟨scalar, named⟩
  · rintro (rfl | ⟨scalar, rfl⟩)
    · exact List.mem_cons_self
    · cases scalar <;> decide

end NodeList

namespace SchemaBuilt

variable {list : NodeList R} {schema : Schema R}

theorem mem_argumentScalars_iff (built : SchemaBuilt list schema) {name : String} :
    name ∈ schema.argumentScalars ↔ name ∈ list.scalarNames := by
  have kinds : ∀ node object, ObjectBuilt list schema.objectId? node object →
      ((∃ argument ∈ object.arguments, argument.typeName = name) ↔
        name ∈ node.arguments.filterMap fun kind =>
          (list.arguments.fresh? kind).map Argument.scalarName) := by
    intro node object objectBuilt
    have defined := objectBuilt.arguments
    simp only [List.mem_filterMap, Option.map_eq_some_iff]
    constructor
    · rintro ⟨argument, takes, rfl⟩
      obtain ⟨fresh, found, typed⟩ := defined.typed argument takes
      have named : argument.name ∈ node.arguments := by
        rw [← List.mem_eraseDups, ← defined.names]
        exact List.mem_map_of_mem takes
      exact ⟨argument.name, named, fresh, found, typed.symm⟩
    · rintro ⟨kind, named, fresh, found, rfl⟩
      rw [← List.mem_eraseDups, ← defined.names] at named
      obtain ⟨argument, takes, rfl⟩ := List.mem_map.mp named
      obtain ⟨other, otherFound, typed⟩ := defined.typed argument takes
      obtain rfl : other = fresh := by simpa [otherFound] using found
      exact ⟨argument, takes, typed⟩
  rw [Schema.mem_argumentScalars, built.exists_object_iff kinds, NodeList.scalarNames,
    List.mem_flatMap]

theorem mem_objectNames_iff (built : SchemaBuilt list schema) {name : String} :
    name ∈ schema.objects.map ObjectType.name ↔ name ∈ list.typeNames :=
  built.typeNames_perm.mem_iff

theorem mem_definedNames_iff (built : SchemaBuilt list schema) {name : String} :
    name ∈ schema.document.definedNames ↔
      name ∈ list.scalarNames ∨ name ∈ list.typeNames ∨ name = queryTypeName := by
  rw [schema.definedNames_document, List.mem_append, List.mem_append,
    built.mem_argumentScalars_iff, built.mem_objectNames_iff, List.mem_singleton, or_assoc]

/-- Names of objects that differ from each other can still be those of scalars, and either can
be the name of the query type. -/
theorem nodup_definedNames_iff (built : SchemaBuilt list schema)
    (distinct : (schema.objects.map ObjectType.name).Nodup) :
    schema.document.definedNames.Nodup ↔
      (∀ name ∈ list.typeNames, name ∉ list.scalarNames) ∧
        queryTypeName ∉ list.scalarNames ∧ queryTypeName ∉ list.typeNames := by
  have scalarsOnce : schema.argumentScalars.Nodup := schema.pairwise_argumentScalars.imp ne_of_lt
  rw [schema.definedNames_document, List.append_assoc]
  simp only [List.nodup_append', scalarsOnce, distinct, List.nodup_singleton, true_and]
  simp only [List.disjoint_left, List.mem_append, List.mem_singleton,
    built.mem_argumentScalars_iff, built.mem_objectNames_iff]
  constructor
  · rintro ⟨query, scalars⟩
    exact ⟨fun name typed used => scalars used (.inl typed), fun used => scalars used (.inr rfl),
      fun typed => query typed rfl⟩
  · rintro ⟨apart, scalars, types⟩
    refine ⟨?_, ?_⟩
    · rintro name typed rfl
      exact types typed
    · rintro name used (typed | rfl)
      · exact apart name typed used
      · exact scalars used

/-- The document of a built schema defines no type twice, and none that is built in, exactly if
the names of its nodes and of their arguments are apart. -/
theorem definesOnce_iff (built : SchemaBuilt list schema)
    (distinct : (schema.objects.map ObjectType.name).Nodup) :
    schema.document.definedNames.Nodup ∧
        (∀ scalar : ScalarType, scalar.name ∉ schema.document.definedNames) ↔
      list.NamesApart := by
  have taken := @NodeList.mem_takenNames_iff
  rw [built.nodup_definedNames_iff distinct]
  constructor
  · rintro ⟨⟨apart, scalars, types⟩, notBuiltIn⟩
    refine ⟨?_, ?_, apart⟩
    · intro name typed isTaken
      rcases taken.mp isTaken with rfl | ⟨scalar, rfl⟩
      · exact types typed
      · exact notBuiltIn scalar (built.mem_definedNames_iff.mpr (.inr (.inl typed)))
    · intro name used isTaken
      rcases taken.mp isTaken with rfl | ⟨scalar, rfl⟩
      · exact scalars used
      · exact notBuiltIn scalar (built.mem_definedNames_iff.mpr (.inl used))
  · intro apart
    refine ⟨⟨apart.apart, fun used => apart.scalars _ used (taken.mpr (.inl rfl)),
      fun typed => apart.types _ typed (taken.mpr (.inl rfl))⟩, ?_⟩
    intro scalar defined
    have builtIn : scalar.name ∈ NodeList.takenNames := taken.mpr (.inr ⟨scalar, rfl⟩)
    rcases built.mem_definedNames_iff.mp defined with used | typed | query
    · exact apart.scalars _ used builtIn
    · exact apart.types _ typed builtIn
    · cases scalar <;> exact absurd query (by decide)

end SchemaBuilt

namespace Catalog

theorem Reachable.nodup_objectNames {catalog : Catalog R} (reachable : catalog.Reachable)
    {schema : Schema R} (built : catalog.schema.1 = .ok schema) :
    (schema.objects.map ObjectType.name).Nodup := by
  rw [reachable.schema_eq] at built
  have sound := schema.isValid_report_iff.mp (freshSchema_eq_ok_iff.mp built).2
  rw [List.nodup_iff_forall_not_duplicate]
  intro name repeated
  exact sound (.repeatedTypeName name) (.inl (Schema.repeats_start.mpr repeated))

/-- No two arguments and no two objects of a schema define the same type, and the document as a
whole defines no type twice, and none that is built in, exactly if the names that the nodes of
the catalog stand for are apart. -/
theorem defined_once_iff {catalog : Catalog R} (reachable : catalog.Reachable)
    {schema : Schema R} (built : catalog.schema.1 = .ok schema) :
    schema.argumentScalars.Nodup ∧ (schema.objects.map ObjectType.name).Nodup ∧
      (schema.document.definedNames.Nodup ∧
          (∀ scalar : ScalarType, scalar.name ∉ schema.document.definedNames) ↔
        catalog.list.NamesApart) := by
  have distinct := reachable.nodup_objectNames built
  exact ⟨schema.pairwise_argumentScalars.imp ne_of_lt, distinct,
    (reachable.schemaBuilt built).definesOnce_iff distinct⟩

theorem defined_once_organisation :
    organisation.Reachable ∧ organisation.list.NamesApart ∧
      ∃ schema, organisation.schema.1 = .ok schema ∧ schema.document.definedNames.Nodup ∧
        ∀ scalar : ScalarType, scalar.name ∉ schema.document.definedNames := by
  have apart : organisation.list.NamesApart := by decide +kernel
  obtain ⟨schema, built⟩ := exists_organisation_schema
  exact ⟨organisation_reachable, apart, schema, built,
    (defined_once_iff organisation_reachable built).2.2.mpr apart⟩

/-- A node whose type is called as the query type is. -/
def savedQueries : Catalog Unit :=
  .ofNodes
    [{ name := "queries"
       nodeType := "query"
       arguments := []
       fields := [{ name := "id", fieldType := .ofTag "Int" }]
       resolver := () }]
    .builtIn

theorem savedQueries_defines_query_twice :
    savedQueries.Reachable ∧ ∃ schema, savedQueries.schema.1 = .ok schema ∧
      schema.document.definedNames = ["Query", "Query"] := by
  have reachable : savedQueries.Reachable := reachable_ofNodes _ (by decide) (by decide)
  have succeeds : savedQueries.schema.1.isOk = true := by decide +kernel
  obtain ⟨schema, built⟩ := exists_schema_of_isOk succeeds
  have schemaBuilt := reachable.schemaBuilt built
  have types : schema.objects.map ObjectType.name = ["Query"] :=
    List.perm_singleton.mp schemaBuilt.typeNames_perm
  have scalars : schema.argumentScalars = [] := by
    apply List.eq_nil_iff_forall_not_mem.mpr
    intro name used
    have listed := schemaBuilt.mem_argumentScalars_iff.mp used
    exact absurd listed List.not_mem_nil
  refine ⟨reachable, schema, built, ?_⟩
  rw [schema.definedNames_document, types, scalars]
  rfl

end Catalog

end NodeGraph
