import NodeGraph.Proofs.Catalog.Reachable

/-!
# Schemas of reachable catalogs

Whatever nodes refer to each other, a schema that a catalog gives holds one complete object
for each registered node, whose fields are those that the node declares, and every reference
stands at the position of the one object of its type tag.
-/

namespace NodeGraph

variable {R : Type}

/-- A field whose type was given by a tag. -/
def Field.ByTag (field : Field R) : Prop := ∃ tag, field.fieldType = .ofTag tag

def Node.ByTag (node : Node R) : Prop := ∀ field ∈ node.fields, field.ByTag

namespace FieldType

theorem ofTag_eq_scalar_iff {tag : String} {scalar : ScalarType} :
    ofTag tag = .scalar scalar ↔ ScalarType.ofTag? tag = some scalar := by
  unfold ofTag
  cases ScalarType.ofTag? tag <;> simp

theorem ofTag_eq_node_iff {tag target : String} :
    ofTag tag = .node target ↔ ScalarType.ofTag? tag = none ∧ tag = target := by
  unfold ofTag
  cases ScalarType.ofTag? tag <;> simp

@[simp]
theorem tag_ofTag (tag : String) : (ofTag tag).tag = tag := by
  unfold ofTag
  cases found : ScalarType.ofTag? tag with
  | none => rfl
  | some scalar =>
      have named := List.find?_some (show List.find? _ _ = some scalar from found)
      simpa [FieldType.tag] using named

end FieldType

theorem Field.byTag_iff (field : Field R) :
    field.ByTag ↔ field.fieldType = .ofTag field.fieldType.tag := by
  constructor
  · rintro ⟨tag, typed⟩
    rw [typed, FieldType.tag_ofTag]
  · exact fun typed => ⟨_, typed⟩

instance (field : Field R) : Decidable field.ByTag :=
  decidable_of_iff _ field.byTag_iff.symm

instance (node : Node R) : Decidable node.ByTag :=
  inferInstanceAs (Decidable (∀ field ∈ node.fields, field.ByTag))

namespace Schema

/-- What a schema holds for a field that was declared by its tag. -/
structure FieldOf (schema : Schema R) (list : NodeList R) (declared : Field R)
    (field : SchemaField R) : Prop where
  name : field.name = declared.name
  description : field.description = declared.description
  resolver : field.resolver = declared.resolver
  scalar : ∀ scalar, ScalarType.ofTag? declared.fieldType.tag = some scalar →
    field.output =
        (if declared.asList = some true then .list (.scalar scalar) else .scalar scalar) ∧
      field.nodeType = none ∧ field.arguments = []
  reference : ScalarType.ofTag? declared.fieldType.tag = none →
    ∃ target ∈ list.nodes, target.nodeType = declared.fieldType.tag ∧
      ∃ id, schema.objectId? target.nodeType = some id ∧
        field.output = .forNode id (declared.asList.getD target.isList) ∧
        field.nodeType = some target.nodeType ∧
        ArgumentsDefined list.arguments target.arguments field.arguments

/-- What a schema holds for a node: the object under its type tag, with all its fields. -/
structure ObjectOf (schema : Schema R) (list : NodeList R) (node : Node R)
    (object : ObjectType R) : Prop extends ObjectAllocated list node object where
  complete : object.complete = true
  fields : List.Forall₂ (schema.FieldOf list) node.fields object.fields

/-- A schema that holds exactly what the nodes of a list declare. -/
structure Describes (schema : Schema R) (list : NodeList R) : Prop where
  types : (schema.objects.map ObjectType.nodeType).Perm (list.nodes.map Node.nodeType)
  complete : ∀ object ∈ schema.objects, object.complete = true
  objects : ∀ node ∈ list.nodes, ∃ id object, schema.objectId? node.nodeType = some id ∧
    schema.objects[id]? = some object ∧ schema.ObjectOf list node object
  roots : List.Forall₂ (RootBuilt list schema.objectId?) list.nodes schema.roots

end Schema

theorem FieldBuilt.fieldOf {list : NodeList R} {schema : Schema R} {declared : Field R}
    {field : SchemaField R} (built : FieldBuilt list schema.objectId? declared field)
    (byTag : declared.ByTag) : schema.FieldOf list declared field := by
  obtain ⟨tag, typed⟩ := byTag
  have tagEq : declared.fieldType.tag = tag := by rw [typed, FieldType.tag_ofTag]
  cases built with
  | scalar scalar type =>
      have named : ScalarType.ofTag? declared.fieldType.tag = some scalar := by
        rw [tagEq]
        exact FieldType.ofTag_eq_scalar_iff.mp (typed.symm.trans type)
      refine ⟨rfl, rfl, rfl, ?_, ?_⟩
      · intro other otherNamed
        obtain rfl : scalar = other := by simpa [named] using otherNamed
        exact ⟨rfl, rfl, rfl⟩
      · intro unnamed
        simp [named] at unnamed
  | reference target id arguments type registered placed defined =>
      obtain ⟨unnamed, carried⟩ := FieldType.ofTag_eq_node_iff.mp (typed.symm.trans type)
      have output : referenceOutput target id declared.asList =
          .forNode id (declared.asList.getD target.isList) := by
        simp [referenceOutput, ← carried, unnamed]
      refine ⟨rfl, rfl, rfl, ?_, ?_⟩
      · intro scalar named
        simp [tagEq, unnamed] at named
      · intro _
        exact ⟨target, registered, by rw [tagEq, carried], id, placed, output, rfl, defined⟩

theorem SchemaBuilt.describes {list : NodeList R} {schema : Schema R}
    (built : SchemaBuilt list schema) (byTag : ∀ node ∈ list.nodes, node.ByTag) :
    schema.Describes list := by
  refine ⟨built.types, ?_, ?_, built.roots⟩
  · intro object member
    obtain ⟨node, _, objectBuilt⟩ := built.owned object member
    exact objectBuilt.complete
  · intro node member
    obtain ⟨id, object, placed, found, objectBuilt⟩ := built.found node member
    refine ⟨id, object, placed, found, objectBuilt.toObjectAllocated, objectBuilt.complete, ?_⟩
    have typed := (List.forall₂_and_left _ _).mpr ⟨byTag node member, objectBuilt.fields⟩
    exact typed.imp fun _ _ both => both.2.fieldOf both.1

namespace Catalog

theorem freshSchema_eq_ok_iff {catalog : Catalog R} {schema : Schema R} :
    catalog.freshSchema = .ok schema ↔
      catalog.list.assemble = .ok schema ∧ schema.report.isValid = true := by
  unfold freshSchema
  cases assembled : catalog.list.assemble with
  | error fault => simp [bind, Except.bind]
  | ok other =>
      by_cases valid : other.report.isValid = true
      · simp only [bind, Except.bind, valid, if_true, pure, Except.pure, Except.ok.injEq]
        constructor
        · rintro rfl
          exact ⟨rfl, valid⟩
        · exact fun both => both.1
      · simp only [bind, Except.bind, if_neg valid, reduceCtorEq, Except.ok.injEq, false_iff]
        rintro ⟨rfl, otherValid⟩
        exact valid otherValid

/-- The nodes of a reachable catalog are what a schema that it gives is built of. -/
theorem Reachable.schemaBuilt {catalog : Catalog R} (reachable : catalog.Reachable)
    {schema : Schema R} (built : catalog.schema.1 = .ok schema) :
    SchemaBuilt catalog.list schema := by
  rw [reachable.schema_eq] at built
  have distinct := reachable.coherent.distinct
  rcases NodeList.assemble_outcome distinct with
    ⟨other, arena, ok, assembled⟩ | ⟨fault, failed, _⟩
  · obtain rfl : other = schema := by
      simpa [ok] using (freshSchema_eq_ok_iff.mp built).1
    exact assembled.schemaBuilt distinct
  · have succeeded := (freshSchema_eq_ok_iff.mp built).1
    simp [failed] at succeeded

/-- Every schema that a reachable catalog gives describes the registered nodes, whatever
the references between them. -/
theorem schema_describes_nodes {catalog : Catalog R} (reachable : catalog.Reachable)
    (byTag : ∀ node ∈ catalog.nodes, node.ByTag) {schema : Schema R}
    (built : catalog.schema.1 = .ok schema) : schema.Describes catalog.list :=
  (reachable.schemaBuilt built).describes byTag

theorem exists_schema_of_isOk {catalog : Catalog R} (succeeds : catalog.schema.1.isOk = true) :
    ∃ schema, catalog.schema.1 = .ok schema := by
  cases built : catalog.schema.1 with
  | error fault => simp [built, Except.isOk, Except.toBool] at succeeds
  | ok schema => exact ⟨schema, rfl⟩

/-- Teams and persons that refer forwards, backwards and to themselves, with a list of
scalars, both overrides of a reference and an argument kind that is named twice. -/
def organisation : Catalog Unit :=
  .ofNodes
    [{ name := "teams"
       nodeType := "team"
       fields :=
         [{ name := "title", fieldType := .ofTag "String", description := some "short" },
          { name := "tags", fieldType := .ofTag "String", asList := some true },
          { name := "lead", fieldType := .ofTag "person", asList := some true },
          { name := "parent", fieldType := .ofTag "team", asList := some false }]
       arguments := [limitName, filterName, limitName]
       resolver := () },
     { name := "persons"
       nodeType := "person"
       isList := false
       fields :=
         [{ name := "team", fieldType := .ofTag "team", resolver := some () },
          { name := "manager", fieldType := .ofTag "person" }]
       resolver := () }]
    .builtIn

theorem organisation_reachable : organisation.Reachable :=
  reachable_ofNodes _ (by decide) (by decide)

theorem organisation_byTag : ∀ node ∈ organisation.nodes, node.ByTag := by
  decide

theorem organisation_schema_isOk : organisation.schema.1.isOk = true := by
  decide +kernel

theorem exists_organisation_schema : ∃ schema, organisation.schema.1 = .ok schema :=
  exists_schema_of_isOk organisation_schema_isOk

theorem schema_describes_organisation :
    organisation.Reachable ∧ (∀ node ∈ organisation.nodes, node.ByTag) ∧
      ∃ schema, organisation.schema.1 = .ok schema ∧ schema.Describes organisation.list := by
  obtain ⟨schema, built⟩ := exists_organisation_schema
  exact ⟨organisation_reachable, organisation_byTag, schema, built,
    schema_describes_nodes organisation_reachable organisation_byTag built⟩

end Catalog

end NodeGraph
