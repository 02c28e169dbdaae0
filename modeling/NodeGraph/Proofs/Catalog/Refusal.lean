import NodeGraph.Proofs.Catalog.Exactness
import NodeGraph.Proofs.RelatedLists
import NodeGraph.Proofs.Schema.Validity

/-!
# When a catalog has no schema

A reachable catalog has a schema exactly if all names in it are registered and its nodes
are well named.  An unregistered name decides the error, and every other error is a refusal
whose issues are those of the declarations.  Incomplete nodes, references outside the schema
and repeated node names are no issues of a built schema.
-/

namespace NodeGraph

variable {R : Type}

namespace NodeList

/-- Every argument kind and every type tag that a node names is registered. -/
structure Resolved (list : NodeList R) : Prop where
  kinds : ∀ node ∈ list.nodes, ∀ kind ∈ node.arguments, list.arguments.contains kind = true
  tags : ∀ node ∈ list.nodes, ∀ field ∈ node.fields,
    ScalarType.ofTag? field.fieldType.tag = none →
      ∃ target ∈ list.nodes, target.nodeType = field.fieldType.tag

/-- The rules for the names of nodes, of their types and of their fields. -/
structure WellNamed (list : NodeList R) : Prop where
  fields : ∀ node ∈ list.nodes, node.fields ≠ []
  fieldsNamed : ∀ node ∈ list.nodes, ∀ field ∈ node.fields, field.name ≠ ""
  fieldsDistinct : ∀ node ∈ list.nodes, (node.fields.map Field.name).Nodup
  named : ∀ node ∈ list.nodes, node.name ≠ ""
  typesDistinct : (list.nodes.map fun node => Text.pascalCase node.nodeType).Nodup

/-- The issues of what nodes declare. -/
def Breaks (list : NodeList R) : SchemaIssue → Prop
  | .repeatedTypeName typeName =>
      List.Duplicate typeName (list.nodes.map fun node => Text.pascalCase node.nodeType)
  | .noFields tag => ∃ node ∈ list.nodes, node.nodeType = tag ∧ node.fields = []
  | .emptyFieldName tag =>
      ∃ node ∈ list.nodes, node.nodeType = tag ∧ ∃ field ∈ node.fields, field.name = ""
  | .repeatedField name tag => ∃ node ∈ list.nodes, node.nodeType = tag ∧ name ≠ "" ∧
      List.Duplicate name (node.fields.map Field.name)
  | .emptyNodeName tag => ∃ node ∈ list.nodes, node.nodeType = tag ∧ node.name = ""
  | .incompleteNode _ => False
  | .danglingReference _ _ => False
  | .repeatedNodeName _ => False

theorem wellNamed_iff (list : NodeList R) :
    list.WellNamed ↔ ∀ issue, ¬ list.Breaks issue := by
  constructor
  · intro wellNamed issue broken
    cases issue with
    | repeatedTypeName typeName =>
        exact List.nodup_iff_forall_not_duplicate.mp wellNamed.typesDistinct typeName broken
    | noFields tag =>
        obtain ⟨node, member, _, none⟩ := broken
        exact wellNamed.fields node member none
    | emptyFieldName tag =>
        obtain ⟨node, member, _, field, declares, unnamed⟩ := broken
        exact wellNamed.fieldsNamed node member field declares unnamed
    | repeatedField name tag =>
        obtain ⟨node, member, _, _, repeated⟩ := broken
        exact List.nodup_iff_forall_not_duplicate.mp (wellNamed.fieldsDistinct node member)
          name repeated
    | emptyNodeName tag =>
        obtain ⟨node, member, _, unnamed⟩ := broken
        exact wellNamed.named node member unnamed
    | _ => exact broken
  · intro sound
    have fieldsNamed : ∀ node ∈ list.nodes, ∀ field ∈ node.fields, field.name ≠ "" :=
      fun node member field declares unnamed =>
        sound (.emptyFieldName node.nodeType) ⟨node, member, rfl, field, declares, unnamed⟩
    refine ⟨?_, fieldsNamed, ?_, ?_, ?_⟩
    · exact fun node member none => sound (.noFields node.nodeType) ⟨node, member, rfl, none⟩
    · intro node member
      rw [List.nodup_iff_forall_not_duplicate]
      intro name repeated
      obtain ⟨field, declares, same⟩ := List.mem_map.mp repeated.mem
      have named : name ≠ "" := same ▸ fieldsNamed node member field declares
      exact sound (.repeatedField name node.nodeType) ⟨node, member, rfl, named, repeated⟩
    · exact fun node member unnamed =>
        sound (.emptyNodeName node.nodeType) ⟨node, member, rfl, unnamed⟩
    · rw [List.nodup_iff_forall_not_duplicate]
      exact fun typeName repeated => sound (.repeatedTypeName typeName) repeated

/-- Among nodes whose fields were given by tags, all names are registered exactly if there
is no fault over a name. -/
theorem resolved_iff {list : NodeList R} (byTag : ∀ node ∈ list.nodes, node.ByTag) :
    list.Resolved ↔ ∀ fault, ¬ Unresolved list fault := by
  have refersByTag : ∀ node ∈ list.nodes, ∀ field ∈ node.fields,
      field.fieldType = .node field.fieldType.tag ↔
        ScalarType.ofTag? field.fieldType.tag = none := by
    intro node member field declares
    have typed := field.byTag_iff.mp (byTag node member field declares)
    constructor
    · intro refers
      exact (FieldType.ofTag_eq_node_iff.mp (typed.symm.trans refers)).1
    · intro unnamed
      exact typed.trans (FieldType.ofTag_eq_node_iff.mpr ⟨unnamed, rfl⟩)
  constructor
  · rintro resolved fault (⟨node, kind, registered, named, missing⟩ |
      ⟨node, field, tag, registered, declares, refers, missing⟩)
    · simp [resolved.kinds node registered kind named] at missing
    · have tagEq : field.fieldType.tag = tag := by rw [refers]; rfl
      subst tagEq
      obtain ⟨target, targetMem, carries⟩ := resolved.tags node registered field declares
        ((refersByTag node registered field declares).mp refers)
      exact missing target targetMem carries
  · intro sound
    refine ⟨?_, ?_⟩
    · intro node registered kind named
      by_contra missing
      exact sound _ (.kind node kind registered named (by simpa using missing))
    · intro node registered field declares unnamed
      by_contra missing
      refine sound _ (.tag node field _ registered declares
        ((refersByTag node registered field declares).mpr unnamed) ?_)
      exact fun target targetMem carries => missing ⟨target, targetMem, carries⟩

end NodeList

theorem ArgumentsDefined.contains {registry : ArgumentRegistry} {kinds : List String}
    {definitions : List ArgumentDefinition}
    (defined : ArgumentsDefined registry kinds definitions) {kind : String}
    (named : kind ∈ kinds) : registry.contains kind = true := by
  have member : kind ∈ definitions.map ArgumentDefinition.name := by
    rw [defined.names]
    exact List.mem_eraseDups.mpr named
  obtain ⟨definition, definitionMem, rfl⟩ := List.mem_map.mp member
  obtain ⟨fresh, found, _⟩ := defined.typed definition definitionMem
  unfold ArgumentRegistry.fresh? at found
  cases registered : registry.kind? definition.name with
  | none => simp [registered] at found
  | some _ => simp [ArgumentRegistry.contains, registered]

theorem FieldBuilt.name_eq {list : NodeList R} {position : String → Option Nat}
    {declared : Field R} {field : SchemaField R}
    (built : FieldBuilt list position declared field) : field.name = declared.name := by
  cases built <;> rfl

theorem ObjectBuilt.fieldNames {list : NodeList R} {position : String → Option Nat}
    {node : Node R} {object : ObjectType R} (built : ObjectBuilt list position node object) :
    object.fields.map SchemaField.name = node.fields.map Field.name :=
  (map_eq_of_forall₂ built.fields fun _ _ fieldBuilt => fieldBuilt.name_eq.symm).symm

namespace SchemaBuilt

variable {list : NodeList R} {schema : Schema R}

theorem not_unresolved (built : SchemaBuilt list schema) (fault : GraphError) :
    ¬ Unresolved list fault := by
  rintro (⟨node, kind, registered, named, missing⟩ |
    ⟨node, field, tag, registered, declares, refers, missing⟩)
  · obtain ⟨_, _, _, _, objectBuilt⟩ := built.found node registered
    simp [objectBuilt.arguments.contains named] at missing
  · obtain ⟨_, object, _, _, objectBuilt⟩ := built.found node registered
    obtain ⟨_, _, fieldBuilt⟩ := exists_right_of_forall₂ objectBuilt.fields declares
    cases fieldBuilt with
    | scalar scalar type => simp [type] at refers
    | reference target id arguments type targetMem placed defined =>
        obtain rfl : target.nodeType = tag := by simpa [type] using refers
        exact missing target targetMem rfl

theorem exists_object_iff (built : SchemaBuilt list schema) {ofObject : ObjectType R → Prop}
    {ofNode : Node R → Prop}
    (agree : ∀ node object, ObjectBuilt list schema.objectId? node object →
      (ofObject object ↔ ofNode node)) :
    (∃ object ∈ schema.objects, ofObject object) ↔ ∃ node ∈ list.nodes, ofNode node := by
  constructor
  · rintro ⟨object, member, holds⟩
    obtain ⟨node, registered, objectBuilt⟩ := built.owned object member
    exact ⟨node, registered, (agree node object objectBuilt).mp holds⟩
  · rintro ⟨node, registered, holds⟩
    obtain ⟨_, object, _, found, objectBuilt⟩ := built.found node registered
    exact ⟨object, List.mem_of_getElem? found, (agree node object objectBuilt).mpr holds⟩

theorem typeNames_perm (built : SchemaBuilt list schema) :
    (schema.objects.map ObjectType.name).Perm
      (list.nodes.map fun node => Text.pascalCase node.nodeType) := by
  have named : schema.objects.map ObjectType.name =
      (schema.objects.map ObjectType.nodeType).map Text.pascalCase := by
    rw [List.map_map]
    apply List.map_congr_left
    intro object member
    obtain ⟨node, _, objectBuilt⟩ := built.owned object member
    simp [objectBuilt.name, objectBuilt.nodeType]
  rw [named]
  simpa [List.map_map, Function.comp_def] using built.types.map Text.pascalCase

theorem rootNames (built : SchemaBuilt list schema) :
    schema.roots.map RootField.name = list.nodes.map Node.name := by
  refine (map_eq_of_forall₂ built.roots ?_).symm
  rintro node root ⟨⟩
  rfl

theorem not_isDangling (built : SchemaBuilt list schema) {object : ObjectType R}
    (member : object ∈ schema.objects) {field : SchemaField R} (held : field ∈ object.fields) :
    schema.isDangling field.output = false := by
  obtain ⟨node, registered, objectBuilt⟩ := built.owned object member
  obtain ⟨declared, _, fieldBuilt⟩ := exists_left_of_forall₂ objectBuilt.fields held
  cases fieldBuilt with
  | scalar scalar type =>
      by_cases wrapped : declared.asList = some true <;>
        simp [Schema.isDangling, OutputType.objectId?, wrapped]
  | reference target id arguments type targetMem placed defined =>
      unfold referenceOutput
      cases ScalarType.ofTag? target.nodeType with
      | some scalar => simp [Schema.isDangling, OutputType.objectId?]
      | none =>
          obtain ⟨other, targetObject, otherPlaced, found, _⟩ := built.found target targetMem
          obtain rfl : other = id := by simpa [otherPlaced] using placed
          have bound := (List.getElem?_eq_some_iff.mp found).1
          simp only [Schema.isDangling, OutputType.objectId?_forNode, decide_eq_false_iff_not]
          omega

/-- A built schema shows exactly the issues of the declarations. -/
theorem shows_iff_breaks (built : SchemaBuilt list schema) (distinct : list.Distinct)
    (issue : SchemaIssue) : schema.Shows issue ↔ list.Breaks issue := by
  unfold Schema.Shows
  cases issue with
  | repeatedTypeName typeName =>
      simp only [Schema.ObjectsShow, Schema.RootsShow, Schema.repeats_start, or_false,
        NodeList.Breaks, List.duplicate_iff_two_le_count, built.typeNames_perm.count_eq]
  | incompleteNode tag =>
      simp only [Schema.ObjectsShow, Schema.ObjectShows, Schema.RootsShow, or_false,
        NodeList.Breaks, iff_false]
      rintro ⟨object, member, _, incomplete⟩
      obtain ⟨node, _, objectBuilt⟩ := built.owned object member
      simp [objectBuilt.complete] at incomplete
  | noFields tag =>
      simp only [Schema.ObjectsShow, Schema.ObjectShows, Schema.RootsShow, or_false,
        NodeList.Breaks]
      apply built.exists_object_iff
      intro node object objectBuilt
      rw [objectBuilt.nodeType, eq_comm, ← List.map_eq_nil_iff, objectBuilt.fieldNames,
        List.map_eq_nil_iff]
  | emptyFieldName tag =>
      simp only [Schema.ObjectsShow, Schema.ObjectShows, Schema.FieldsShow, Schema.RootsShow,
        or_false, NodeList.Breaks]
      apply built.exists_object_iff
      intro node object objectBuilt
      rw [objectBuilt.nodeType, eq_comm]
      have unnamed : (∃ field ∈ object.fields, field.name = "") ↔
          "" ∈ object.fields.map SchemaField.name := by simp
      have declaredUnnamed : (∃ field ∈ node.fields, field.name = "") ↔
          "" ∈ node.fields.map Field.name := by simp
      rw [unnamed, objectBuilt.fieldNames, ← declaredUnnamed]
  | repeatedField name tag =>
      simp only [Schema.ObjectsShow, Schema.ObjectShows, Schema.FieldsShow, Schema.RootsShow,
        Schema.repeats_start, or_false, NodeList.Breaks]
      apply built.exists_object_iff
      intro node object objectBuilt
      rw [objectBuilt.nodeType, objectBuilt.fieldNames, eq_comm]
  | danglingReference name tag =>
      simp only [Schema.ObjectsShow, Schema.ObjectShows, Schema.FieldsShow, Schema.RootsShow,
        or_false, NodeList.Breaks, iff_false]
      rintro ⟨object, member, _, _, field, held, _, dangling⟩
      simp [built.not_isDangling member held] at dangling
  | emptyNodeName tag =>
      simp only [Schema.ObjectsShow, Schema.ObjectShows, Schema.FieldsShow, Schema.RootsShow,
        and_false, exists_false, false_or, NodeList.Breaks]
      constructor
      · rintro ⟨root, held, carries, unnamed⟩
        obtain ⟨node, registered, ⟨⟩⟩ := exists_left_of_forall₂ built.roots held
        exact ⟨node, registered, carries, unnamed⟩
      · rintro ⟨node, registered, carries, unnamed⟩
        obtain ⟨root, held, ⟨⟩⟩ := exists_right_of_forall₂ built.roots registered
        exact ⟨_, held, carries, unnamed⟩
  | repeatedNodeName name =>
      simp only [Schema.ObjectsShow, Schema.ObjectShows, Schema.FieldsShow, Schema.RootsShow,
        and_false, exists_false, Schema.repeats_start, false_or, NodeList.Breaks, iff_false]
      rintro ⟨_, repeated⟩
      rw [built.rootNames] at repeated
      exact List.nodup_iff_forall_not_duplicate.mp distinct.names name repeated

end SchemaBuilt

namespace Catalog

/-- A reachable catalog either answers as the check of an assembled schema says or fails over
an unregistered name. -/
theorem Reachable.outcome {catalog : Catalog R} (reachable : catalog.Reachable) :
    (∃ schema, SchemaBuilt catalog.list schema ∧
      catalog.schema.1 = if schema.report.isValid then .ok schema
        else .error (.schema (.refused schema.report.errors))) ∨
    ∃ fault, catalog.schema.1 = .error fault ∧ Unresolved catalog.list fault := by
  rw [reachable.schema_eq]
  have distinct := reachable.coherent.distinct
  unfold freshSchema
  rcases NodeList.assemble_outcome distinct with
    ⟨schema, arena, ok, assembled⟩ | ⟨fault, failed, unresolved⟩
  · exact .inl ⟨schema, assembled.schemaBuilt distinct, by rw [ok]; rfl⟩
  · exact .inr ⟨fault, by rw [failed]; rfl, unresolved⟩

/-- Building a schema succeeds exactly if all names are registered and well formed.  An
unregistered name decides the error; otherwise the error lists the issues of the
declarations, among which there are no incomplete nodes, no references outside the schema
and no repeated node names. -/
theorem schema_succeeds_iff {catalog : Catalog R} (reachable : catalog.Reachable)
    (byTag : ∀ node ∈ catalog.nodes, node.ByTag) :
    ((∃ schema, catalog.schema.1 = .ok schema) ↔
      catalog.list.Resolved ∧ catalog.list.WellNamed) ∧
    (¬ catalog.list.Resolved →
      ∃ fault, catalog.schema.1 = .error fault ∧ Unresolved catalog.list fault) ∧
    (catalog.list.Resolved → ¬ catalog.list.WellNamed →
      ∃ issues, catalog.schema.1 = .error (.schema (.refused issues))) ∧
    ∀ issues, catalog.schema.1 = .error (.schema (.refused issues)) →
      (∀ issue, issue ∈ issues ↔ catalog.list.Breaks issue) ∧
      (∀ tag, .incompleteNode tag ∉ issues) ∧
      (∀ field tag, .danglingReference field tag ∉ issues) ∧
      ∀ name, .repeatedNodeName name ∉ issues := by
  have resolvedIff := NodeList.resolved_iff byTag
  rcases reachable.outcome with ⟨schema, built, answer⟩ | ⟨fault, failed, unresolved⟩
  · have resolved : catalog.list.Resolved := resolvedIff.mpr built.not_unresolved
    have shown := built.shows_iff_breaks reachable.coherent.distinct
    have wellNamedIff : catalog.list.WellNamed ↔ schema.report.isValid = true := by
      rw [catalog.list.wellNamed_iff, schema.isValid_report_iff]
      exact forall_congr' fun issue => not_congr (shown issue).symm
    by_cases valid : schema.report.isValid = true
    · rw [if_pos valid] at answer
      refine ⟨⟨fun _ => ⟨resolved, wellNamedIff.mpr valid⟩, fun _ => ⟨schema, answer⟩⟩,
        fun unresolved => absurd resolved unresolved,
        fun _ misnamed => absurd (wellNamedIff.mpr valid) misnamed, ?_⟩
      intro issues refused
      simp [answer] at refused
    · rw [if_neg valid] at answer
      refine ⟨⟨?_, fun both => absurd (wellNamedIff.mp both.2) valid⟩,
        fun unresolved => absurd resolved unresolved, fun _ _ => ⟨_, answer⟩, ?_⟩
      · rintro ⟨other, succeeded⟩
        simp [answer] at succeeded
      · intro issues refused
        obtain rfl : schema.report.errors = issues := by simpa [answer] using refused
        have listed : ∀ issue, issue ∈ schema.report.errors ↔ catalog.list.Breaks issue :=
          fun issue => (schema.mem_errors_report issue).trans (shown issue)
        exact ⟨listed, fun tag member => (listed _).mp member,
          fun field tag member => (listed _).mp member,
          fun name member => (listed _).mp member⟩
  · have unresolvedList : ¬ catalog.list.Resolved :=
      fun resolved => resolvedIff.mp resolved fault unresolved
    refine ⟨⟨?_, fun both => absurd both.1 unresolvedList⟩, fun _ => ⟨fault, failed, unresolved⟩,
      fun resolved => absurd resolved unresolvedList, ?_⟩
    · rintro ⟨schema, succeeded⟩
      simp [failed] at succeeded
    · intro issues refused
      obtain rfl : fault = .schema (.refused issues) := by simpa [failed] using refused
      cases unresolved

/-- Two nodes with different tags of one type name, one of which refers to itself and to
the other. -/
def collision : Catalog Unit :=
  .ofNodes
    [{ name := "roles"
       nodeType := "user_role"
       fields :=
         [{ name := "next", fieldType := .ofTag "user_role" },
          { name := "twin", fieldType := .ofTag "userRole" }]
       resolver := () },
     { name := "twins"
       nodeType := "userRole"
       fields := [{ name := "id", fieldType := .ofTag "Int" }]
       resolver := () }]
    .builtIn

theorem collision_refused :
    collision.Reachable ∧ (∀ node ∈ collision.nodes, node.ByTag) ∧
      ∃ issues, collision.schema.1 = .error (.schema (.refused issues)) ∧
        .repeatedTypeName "UserRole" ∈ issues := by
  have reachable : collision.Reachable :=
    reachable_ofNodes _ (by decide) (by decide)
  have byTag : ∀ node ∈ collision.nodes, node.ByTag := by decide
  obtain ⟨_, _, refuses, listed⟩ := schema_succeeds_iff reachable byTag
  have repeated : collision.list.Breaks (.repeatedTypeName "UserRole") := by
    unfold NodeList.Breaks
    decide +kernel
  obtain ⟨issues, refused⟩ := refuses ⟨by decide, by decide⟩
    fun wellNamed => (collision.list.wellNamed_iff.mp wellNamed) _ repeated
  exact ⟨reachable, byTag, issues, refused, ((listed issues refused).1 _).mpr repeated⟩

end Catalog

end NodeGraph
