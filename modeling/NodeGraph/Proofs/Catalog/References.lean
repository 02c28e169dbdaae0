import NodeGraph.Proofs.Catalog.Exactness
import NodeGraph.Proofs.RelatedLists
import NodeGraph.Proofs.Schema.Lawful

/-!
# References to nodes

A field that refers to a node by its type tag carries the tag and the arguments of the node.  It
also points at the object of the node, unless a scalar has the tag for a name: then the values of
the field are scalars.  So the fields of a schema that carry a tag are the ones that point at
objects exactly if no declared field refers to a node under the name of a scalar, which no field
does that was declared by its tag.
-/

namespace NodeGraph

variable {R : Type}

/-- A field that refers to no node under the name of a scalar. -/
def Field.ClearOfScalars (declared : Field R) : Prop :=
  ∀ tag, declared.fieldType = .node tag → ScalarType.ofTag? tag = none

theorem Field.ByTag.clearOfScalars {declared : Field R} (byTag : declared.ByTag) :
    declared.ClearOfScalars := by
  intro tag refers
  obtain ⟨given, typed⟩ := byTag
  obtain ⟨unnamed, rfl⟩ := FieldType.ofTag_eq_node_iff.mp (typed.symm.trans refers)
  exact unnamed

def NodeList.ClearOfScalars (list : NodeList R) : Prop :=
  ∀ node ∈ list.nodes, ∀ declared ∈ node.fields, declared.ClearOfScalars

/-- A field that carries a tag exactly if it points at an object, and arguments only then. -/
structure SchemaField.MarksReference (field : SchemaField R) : Prop where
  nodeType : field.nodeType.isSome = true ↔ ∃ id, field.output.PointsAt id
  arguments : field.arguments ≠ [] → ∃ id, field.output.PointsAt id

namespace OutputType

theorem pointsAt_forNode (id : Nat) (asList : Bool) : (forNode id asList).PointsAt id :=
  objectId?_eq_some_iff.mp (objectId?_forNode id asList)

theorem not_pointsAt_scalar (scalar : ScalarType) (id : Nat) : ¬ PointsAt (.scalar scalar) id :=
  nofun

theorem forNode_ne_scalar (id : Nat) (asList : Bool) (scalar : ScalarType) :
    forNode id asList ≠ .scalar scalar := by
  intro same
  exact not_pointsAt_scalar scalar id (same ▸ pointsAt_forNode id asList)

end OutputType

namespace Schema

/-- A field with values of the type that stands for a node, in a list if the declared field or
else the node says so. -/
def PointsAtNode (schema : Schema R) (list : NodeList R) (asList : Option Bool)
    (target : Node R) (field : SchemaField R) : Prop :=
  ∃ id object, schema.objectId? target.nodeType = some id ∧ schema.objects[id]? = some object ∧
    ObjectAllocated list target object ∧
    field.output = .forNode id (asList.getD target.isList)

/-- What a schema holds for a field that refers to a node. -/
structure ReferenceOf (schema : Schema R) (list : NodeList R) (asList : Option Bool)
    (target : Node R) (field : SchemaField R) : Prop where
  nodeType : field.nodeType = some target.nodeType
  arguments : ArgumentsDefined list.arguments target.arguments field.arguments
  points : ScalarType.ofTag? target.nodeType = none → schema.PointsAtNode list asList target field
  scalar : ∀ scalar, ScalarType.ofTag? target.nodeType = some scalar →
    field.output = .scalar scalar

/-- If a declared field refers to a node by a tag, a statement holds about the node and the field
that a schema has for the declared one. -/
def Refers (list : NodeList R) (holds : Option Bool → Node R → SchemaField R → Prop)
    (declared : Field R) (field : SchemaField R) : Prop :=
  ∀ tag, declared.fieldType = .node tag →
    ∃ target ∈ list.nodes, target.nodeType = tag ∧ holds declared.asList target field

/-- A statement holds about the fields of all nodes and the fields that a schema has for them, in
the objects of these nodes. -/
def ForFields (schema : Schema R) (list : NodeList R)
    (holds : Field R → SchemaField R → Prop) : Prop :=
  ∀ node ∈ list.nodes, ∃ id object, schema.objectId? node.nodeType = some id ∧
    schema.objects[id]? = some object ∧ List.Forall₂ holds node.fields object.fields

/-- Every declared reference to a node points at the object of the node. -/
def KeepsReferences (schema : Schema R) (list : NodeList R) : Prop :=
  schema.ForFields list (Refers list (schema.PointsAtNode list))

/-- All fields tell by their marks whether they are references. -/
def MarksReferences (schema : Schema R) : Prop :=
  ∀ object ∈ schema.objects, ∀ field ∈ object.fields, field.MarksReference

theorem ForFields.imp {schema : Schema R} {list : NodeList R}
    {first second : Field R → SchemaField R → Prop} (held : schema.ForFields list first)
    (weaker : ∀ declared field, first declared field → second declared field) :
    schema.ForFields list second := by
  intro node registered
  obtain ⟨id, object, placed, found, fields⟩ := held node registered
  exact ⟨id, object, placed, found, fields.imp weaker⟩

/-- The object of a node is the same for all statements, so a declared field has one field for
which both of two statements hold. -/
theorem ForFields.exists_field {schema : Schema R} {list : NodeList R}
    {first second : Field R → SchemaField R → Prop} (held : schema.ForFields list first)
    (alsoHeld : schema.ForFields list second) {node : Node R} (registered : node ∈ list.nodes)
    {declared : Field R} (declares : declared ∈ node.fields) :
    ∃ field, first declared field ∧ second declared field := by
  obtain ⟨id, object, placed, found, fields⟩ := held node registered
  obtain ⟨other, same, otherPlaced, sameFound, alsoFields⟩ := alsoHeld node registered
  obtain rfl : id = other := by simpa [placed] using otherPlaced
  obtain rfl : object = same := by simpa [found] using sameFound
  have both : List.Forall₂ (fun declared field => first declared field ∧ second declared field)
      node.fields object.fields := fields.mp (fun _ _ => .intro) alsoFields
  obtain ⟨field, _, holds⟩ := exists_right_of_forall₂ both declares
  exact ⟨field, holds⟩

end Schema

/-- A field of a scalar type, or of lists of it, points nowhere and carries no marks. -/
theorem FieldBuilt.marks_of_scalar {list : NodeList R} {position : String → Option Nat}
    {declared : Field R} {field : SchemaField R} (built : FieldBuilt list position declared field)
    {scalar : ScalarType} (typed : declared.fieldType = .scalar scalar) :
    field.MarksReference := by
  cases built with
  | scalar other _ =>
      refine ⟨?_, fun given => absurd rfl given⟩
      simp only [Option.isSome_none, Bool.false_eq_true, false_iff, not_exists]
      intro id points
      split at points
      · cases points with
        | list item => exact OutputType.not_pointsAt_scalar other id item
      · exact OutputType.not_pointsAt_scalar other id points
  | reference target id arguments refers registered placed defined =>
      simp [typed] at refers

namespace SchemaBuilt

variable {list : NodeList R} {schema : Schema R} {declared : Field R} {field : SchemaField R}

theorem refers (built : SchemaBuilt list schema)
    (fieldBuilt : FieldBuilt list schema.objectId? declared field) :
    Schema.Refers list (schema.ReferenceOf list) declared field := by
  intro tag refers
  cases fieldBuilt with
  | scalar scalar typed => simp [typed] at refers
  | reference target id arguments typed registered placed defined =>
      obtain rfl : target.nodeType = tag := by simpa [typed] using refers
      refine ⟨target, registered, rfl, rfl, defined, ?_, ?_⟩
      · intro unnamed
        obtain ⟨other, object, otherPlaced, found, objectBuilt⟩ := built.found target registered
        obtain rfl : id = other := by simpa [placed] using otherPlaced
        exact ⟨id, object, placed, found, objectBuilt.toObjectAllocated,
          by simp [referenceOutput, unnamed]⟩
      · intro scalar named
        simp [referenceOutput, named]

/-- A reference under the name of a scalar has the scalar for its output and points nowhere. -/
theorem keeps_iff (built : SchemaBuilt list schema)
    (fieldBuilt : FieldBuilt list schema.objectId? declared field) :
    Schema.Refers list (schema.PointsAtNode list) declared field ↔ declared.ClearOfScalars := by
  constructor
  · intro keeps tag refers
    rw [Option.eq_none_iff_forall_ne_some]
    intro scalar named
    obtain ⟨target, _, rfl, reference⟩ := built.refers fieldBuilt tag refers
    obtain ⟨_, _, _, id, _, _, _, _, output⟩ := keeps _ refers
    exact OutputType.forNode_ne_scalar id _ scalar
      (output.symm.trans (reference.scalar scalar named))
  · intro clear tag refers
    obtain ⟨target, registered, rfl, reference⟩ := built.refers fieldBuilt tag refers
    exact ⟨target, registered, rfl, reference.points (clear _ refers)⟩

theorem marks_iff (built : SchemaBuilt list schema)
    (fieldBuilt : FieldBuilt list schema.objectId? declared field) :
    field.MarksReference ↔ declared.ClearOfScalars := by
  constructor
  · intro marks tag refers
    rw [Option.eq_none_iff_forall_ne_some]
    intro scalar named
    obtain ⟨target, _, rfl, reference⟩ := built.refers fieldBuilt tag refers
    obtain ⟨id, points⟩ := marks.nodeType.mp (by rw [reference.nodeType]; rfl)
    rw [reference.scalar scalar named] at points
    exact OutputType.not_pointsAt_scalar scalar id points
  · intro clear
    cases typed : declared.fieldType with
    | scalar scalar => exact fieldBuilt.marks_of_scalar typed
    | node tag =>
        obtain ⟨target, _, rfl, reference⟩ := built.refers fieldBuilt tag typed
        obtain ⟨id, _, _, _, _, output⟩ := reference.points (clear _ typed)
        have points : ∃ id, field.output.PointsAt id :=
          ⟨id, output ▸ OutputType.pointsAt_forNode id _⟩
        exact ⟨⟨fun _ => points, fun _ => by rw [reference.nodeType]; rfl⟩, fun _ => points⟩

theorem forFields (built : SchemaBuilt list schema) :
    schema.ForFields list (FieldBuilt list schema.objectId?) := by
  intro node registered
  obtain ⟨id, object, placed, found, objectBuilt⟩ := built.found node registered
  exact ⟨id, object, placed, found, objectBuilt.fields⟩

theorem keepsReferences_iff (built : SchemaBuilt list schema) :
    schema.KeepsReferences list ↔ list.ClearOfScalars := by
  constructor
  · intro keeps node registered declared declares
    obtain ⟨field, fieldBuilt, kept⟩ := built.forFields.exists_field keeps registered declares
    exact (built.keeps_iff fieldBuilt).mp kept
  · intro clear node registered
    obtain ⟨id, object, placed, found, objectBuilt⟩ := built.found node registered
    have fields := (List.forall₂_and_left _ _).mpr ⟨clear node registered, objectBuilt.fields⟩
    exact ⟨id, object, placed, found,
      fields.imp fun _ _ both => (built.keeps_iff both.2).mpr both.1⟩

theorem marksReferences_iff (built : SchemaBuilt list schema) :
    schema.MarksReferences ↔ list.ClearOfScalars := by
  constructor
  · intro marks node registered declared declares
    obtain ⟨id, object, _, found, objectBuilt⟩ := built.found node registered
    obtain ⟨field, held, fieldBuilt⟩ := exists_right_of_forall₂ objectBuilt.fields declares
    exact (built.marks_iff fieldBuilt).mp (marks object (List.mem_of_getElem? found) field held)
  · intro clear object present field held
    obtain ⟨node, registered, objectBuilt⟩ := built.owned object present
    obtain ⟨declared, declares, fieldBuilt⟩ := exists_left_of_forall₂ objectBuilt.fields held
    exact (built.marks_iff fieldBuilt).mpr (clear node registered declared declares)

end SchemaBuilt

namespace Catalog

/-- In every schema that a catalog gives, a declared reference carries the tag and the arguments
of its node, and it points at the object of the node unless a scalar has the tag for a name.  The
references are kept, and the marks of fields tell references from scalars, exactly if no
reference has such a tag; in particular if all fields were declared by their tags. -/
theorem references_kept_iff {catalog : Catalog R} (reachable : catalog.Reachable)
    {schema : Schema R} (built : catalog.schema.1 = .ok schema) :
    schema.ForFields catalog.list (Schema.Refers catalog.list (schema.ReferenceOf catalog.list)) ∧
      (schema.KeepsReferences catalog.list ↔ catalog.list.ClearOfScalars) ∧
      (schema.MarksReferences ↔ catalog.list.ClearOfScalars) ∧
      ((∀ node ∈ catalog.nodes, node.ByTag) → catalog.list.ClearOfScalars) := by
  have schemaBuilt := reachable.schemaBuilt built
  refine ⟨?_, schemaBuilt.keepsReferences_iff, schemaBuilt.marksReferences_iff, ?_⟩
  · exact schemaBuilt.forFields.imp fun _ _ fieldBuilt => schemaBuilt.refers fieldBuilt
  · exact fun byTag node registered declared declares =>
      (byTag node registered declared declares).clearOfScalars

theorem organisation_keeps_references :
    organisation.Reachable ∧ ∃ schema, organisation.schema.1 = .ok schema ∧
      schema.KeepsReferences organisation.list ∧ schema.MarksReferences := by
  obtain ⟨schema, built⟩ := exists_organisation_schema
  obtain ⟨_, keeps, marks, clear⟩ := references_kept_iff organisation_reachable built
  have organisationClear := clear organisation_byTag
  exact ⟨organisation_reachable, schema, built, keeps.mpr organisationClear,
    marks.mpr organisationClear⟩

/-- A node under the name of a scalar. -/
def totals : Node Unit where
  name := "totals"
  nodeType := "Int"
  arguments := [limitName]
  fields := [{ name := "amount", fieldType := .ofTag "Float" }]
  resolver := ()

/-- A node that refers to itself and to the node under the name of a scalar. -/
def shops : Node Unit where
  name := "shops"
  nodeType := "shop"
  fields :=
    [{ name := "parent", fieldType := .node "shop", asList := some false },
     { name := "totals", fieldType := .node "Int" }]
  resolver := ()

def shopping : Catalog Unit := .ofNodes [totals, shops] .builtIn

theorem shopping_reachable : shopping.Reachable :=
  reachable_ofNodes _ (by decide) (by decide)

theorem shopping_not_clearOfScalars : ¬ shopping.list.ClearOfScalars := by
  intro clear
  have registered : shops ∈ shopping.list.nodes := List.mem_pair.mpr (.inr rfl)
  have unnamed := clear shops registered { name := "totals", fieldType := .node "Int" }
    (by simp [shops]) "Int" rfl
  exact absurd unnamed (by decide)

/-- The totals of a shop, which are a list of nodes, become one number that takes the arguments of
these nodes. -/
theorem totals_of_shops_lost :
    shopping.Reachable ∧ ∃ schema, shopping.schema.1 = .ok schema ∧
      totals ∈ shopping.nodes ∧ totals.nodeType = "Int" ∧
      (∃ object ∈ schema.objects, object.nodeType = shops.nodeType ∧
        ∃ field ∈ object.fields, field.name = "totals" ∧ field.output = .scalar .int ∧
          field.nodeType = some "Int" ∧ field.arguments.map ArgumentDefinition.name = ["limit"]) ∧
      ¬ schema.KeepsReferences shopping.list ∧ ¬ schema.MarksReferences := by
  have succeeds : shopping.schema.1.isOk = true := by decide +kernel
  obtain ⟨schema, built⟩ := exists_schema_of_isOk succeeds
  have schemaBuilt := shopping_reachable.schemaBuilt built
  refine ⟨shopping_reachable, schema, built, List.mem_pair.mpr (.inl rfl), rfl, ?_, ?_, ?_⟩
  · obtain ⟨_, object, _, found, objectBuilt⟩ :=
      schemaBuilt.found shops (List.mem_pair.mpr (.inr rfl))
    have declares : { name := "totals", fieldType := .node "Int" } ∈ shops.fields := by
      simp [shops]
    obtain ⟨field, held, fieldBuilt⟩ := exists_right_of_forall₂ objectBuilt.fields declares
    obtain ⟨target, registered, tag, reference⟩ := schemaBuilt.refers fieldBuilt "Int" rfl
    obtain rfl : target = totals := by
      rcases List.mem_pair.mp registered with same | rfl
      · exact same
      · exact absurd tag (by decide)
    refine ⟨object, List.mem_of_getElem? found, objectBuilt.nodeType, field, held, ?_,
      reference.scalar .int (by decide), reference.nodeType, reference.arguments.names⟩
    cases fieldBuilt <;> rfl
  · exact fun keeps => shopping_not_clearOfScalars (schemaBuilt.keepsReferences_iff.mp keeps)
  · exact fun marks => shopping_not_clearOfScalars (schemaBuilt.marksReferences_iff.mp marks)

end Catalog

end NodeGraph
