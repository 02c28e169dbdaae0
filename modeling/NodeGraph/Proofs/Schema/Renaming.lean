import NodeGraph.Proofs.RelatedLists
import NodeGraph.Proofs.Schema.Assembly

/-!
# Schemas up to the positions of their objects

The position of an object depends on when its node was visited, and nothing else in a schema
does.  Two schemas that are built of the same nodes, listed in any order, become equal once
the positions of the one are replaced by those that the other gives to the same type tags.
-/

namespace NodeGraph

variable {R : Type}

/-- The type with the positions of objects replaced. -/
def OutputType.rename (place : Nat → Nat) : OutputType → OutputType
  | .scalar primitive => .scalar primitive
  | .object id => .object (place id)
  | .list item => .list (item.rename place)

@[simp]
theorem OutputType.rename_forNode (place : Nat → Nat) (id : Nat) (isList : Bool) :
    (forNode id isList).rename place = forNode (place id) isList := by
  cases isList <;> rfl

def SchemaField.rename (place : Nat → Nat) (field : SchemaField R) : SchemaField R :=
  { field with output := field.output.rename place }

def ObjectType.rename (place : Nat → Nat) (object : ObjectType R) : ObjectType R :=
  { object with fields := object.fields.map (SchemaField.rename place) }

def RootField.rename (place : Nat → Nat) (root : RootField R) : RootField R :=
  { root with output := root.output.rename place }

namespace Schema

/-- The position in another schema of the object with the same type tag. -/
def placeIn (schema other : Schema R) (id : Nat) : Nat :=
  (other.objectId? (schema.object id).nodeType).getD 0

/-- Two schemas that differ in the positions of their objects only: type tags, objects and
root fields of the one are those of the other, with every position replaced. -/
structure Renamed (place : Nat → Nat) (schema other : Schema R) : Prop where
  size : other.objects.length = schema.objects.length
  injective : ∀ first second, first < schema.objects.length →
    second < schema.objects.length → place first = place second → first = second
  positions : ∀ tag, other.objectId? tag = (schema.objectId? tag).map place
  objects : ∀ (id : Nat) object, schema.objects[id]? = some object →
    other.objects[place id]? = some (object.rename place)
  roots : ∀ name, other.root? name = (schema.root? name).map (RootField.rename place)
  arguments : other.arguments = schema.arguments

end Schema

/-- The definitions of a node's arguments are determined by the kinds that it names. -/
theorem ArgumentsDefined.unique {registry : ArgumentRegistry} {kinds : List String}
    {definitions others : List ArgumentDefinition}
    (defined : ArgumentsDefined registry kinds definitions)
    (otherDefined : ArgumentsDefined registry kinds others) : others = definitions := by
  have determined : ∀ {list : List ArgumentDefinition}, ArgumentsDefined registry kinds list →
      list = kinds.eraseDups.map fun name =>
        ⟨name, ((registry.fresh? name).map Argument.scalarName).getD ""⟩ := by
    intro list listDefined
    rw [← listDefined.names, List.map_map]
    refine (List.map_id list).symm.trans (List.map_congr_left fun definition member => ?_)
    obtain ⟨fresh, found, typed⟩ := listDefined.typed definition member
    simp [found, ← typed]
  rw [determined defined, determined otherDefined]

/-- Two lists of the same nodes, whose type tags are pairwise distinct, each with an index of its
own. -/
structure NodeList.SameNodes (list other : NodeList R) : Prop where
  nodes : list.nodes.Perm other.nodes
  arguments : other.arguments = list.arguments
  distinct : list.Distinct
  otherIndexed : other.Indexed

namespace NodeList.SameNodes

variable {list other : NodeList R}

theorem distinct_other (same : SameNodes list other) : other.Distinct :=
  ⟨(same.nodes.map Node.name).nodup_iff.mp same.distinct.names, same.otherIndexed⟩

theorem symm (same : SameNodes list other) : SameNodes other list :=
  ⟨same.nodes.symm, same.arguments.symm, same.distinct_other, same.distinct.indexed⟩

theorem eq_of_nodeType (same : SameNodes list other) {node target : Node R}
    (member : node ∈ list.nodes) (otherMember : target ∈ other.nodes)
    (carries : target.nodeType = node.nodeType) : target = node :=
  List.inj_on_of_nodup_map same.distinct.types (same.nodes.mem_iff.mpr otherMember) member
    carries

section Places

variable {place : Nat → Nat} {position otherPosition : String → Option Nat}
  (places : ∀ tag id otherId, position tag = some id → otherPosition tag = some otherId →
    otherId = place id)

include places

/-- What one declared field becomes in both schemas differs in the position of its target. -/
theorem field_renamed (same : SameNodes list other) {declared : Field R}
    {field otherField : SchemaField R} (built : FieldBuilt list position declared field)
    (otherBuilt : FieldBuilt other otherPosition declared otherField) :
    otherField = field.rename place := by
  cases built with
  | scalar scalar type =>
      cases otherBuilt with
      | scalar otherScalar otherType =>
          obtain rfl : otherScalar = scalar := by simpa [type] using otherType.symm
          by_cases wrapped : declared.asList = some true <;>
            simp [SchemaField.rename, OutputType.rename, wrapped]
      | reference target id arguments otherType _ _ _ => simp [type] at otherType
  | reference target id arguments type registered placed defined =>
      cases otherBuilt with
      | scalar otherScalar otherType => simp [type] at otherType
      | reference otherTarget otherId otherArguments otherType otherRegistered otherPlaced
          otherDefined =>
          obtain rfl : otherTarget = target := by
            refine same.eq_of_nodeType registered otherRegistered ?_
            simpa [type] using otherType.symm
          obtain rfl := places _ _ _ placed otherPlaced
          rw [same.arguments] at otherDefined
          obtain rfl := defined.unique otherDefined
          have output : referenceOutput otherTarget (place id) declared.asList =
              (referenceOutput otherTarget id declared.asList).rename place := by
            unfold referenceOutput
            cases ScalarType.ofTag? otherTarget.nodeType with
            | some scalar => rfl
            | none => simp
          simp only [SchemaField.rename, output]

theorem object_renamed (same : SameNodes list other) {node : Node R}
    {object otherObject : ObjectType R} (built : ObjectBuilt list position node object)
    (otherBuilt : ObjectBuilt other otherPosition node otherObject) :
    otherObject = object.rename place := by
  have fields : otherObject.fields = object.fields.map (SchemaField.rename place) :=
    eq_map_of_forall₂ built.fields otherBuilt.fields
      fun _ _ _ => same.field_renamed places
  have otherArguments := otherBuilt.arguments
  rw [same.arguments] at otherArguments
  have arguments := built.arguments.unique otherArguments
  cases otherObject
  simp only [ObjectType.rename, ObjectType.mk.injEq]
  exact ⟨otherBuilt.name.trans built.name.symm, otherBuilt.nodeType.trans built.nodeType.symm,
    fields, arguments, otherBuilt.complete.trans built.complete.symm⟩

theorem root_renamed (same : SameNodes list other) {node : Node R}
    {root otherRoot : RootField R} (built : RootBuilt list position node root)
    (otherBuilt : RootBuilt other otherPosition node otherRoot) :
    otherRoot = root.rename place := by
  obtain ⟨id, arguments, placed, defined⟩ := built
  obtain ⟨otherId, otherArguments, otherPlaced, otherDefined⟩ := otherBuilt
  obtain rfl := places _ _ _ placed otherPlaced
  rw [same.arguments] at otherDefined
  obtain rfl := defined.unique otherDefined
  simp [RootField.rename]

end Places

end NodeList.SameNodes

namespace SchemaBuilt

variable {list other : NodeList R} {schema otherSchema : Schema R}

theorem types_nodup (built : SchemaBuilt list schema) (distinct : list.Distinct) :
    (schema.objects.map ObjectType.nodeType).Nodup :=
  built.types.nodup_iff.mpr distinct.types

theorem object_eq (built : SchemaBuilt list schema) (distinct : list.Distinct) {tag : String}
    {id : Nat} (placed : schema.objectId? tag = some id) :
    schema.objects[id]? = some (schema.object id) ∧ (schema.object id).nodeType = tag := by
  obtain ⟨object, found, carries⟩ :=
    (Schema.objectId?_eq_some_iff (built.types_nodup distinct)).mp placed
  have same : schema.object id = object := by
    rw [Schema.object, List.getD_eq_getElem?_getD, found, Option.getD_some]
  rw [same]
  exact ⟨found, carries⟩

/-- The position of a tag in one schema is the place of its position in another. -/
theorem place_of_position (built : SchemaBuilt list schema) (distinct : list.Distinct)
    (otherSchema : Schema R) (tag : String) (id otherId : Nat)
    (placed : schema.objectId? tag = some id)
    (otherPlaced : otherSchema.objectId? tag = some otherId) :
    otherId = schema.placeIn otherSchema id := by
  rw [Schema.placeIn, (built.object_eq distinct placed).2, otherPlaced, Option.getD_some]

theorem objectId?_isSome_iff (built : SchemaBuilt list schema) (distinct : list.Distinct)
    (tag : String) : (schema.objectId? tag).isSome ↔ ∃ node ∈ list.nodes, node.nodeType = tag := by
  rw [Option.isSome_iff_exists]
  constructor
  · rintro ⟨id, placed⟩
    obtain ⟨found, carries⟩ := built.object_eq distinct placed
    obtain ⟨node, member, objectBuilt⟩ := built.owned _ (List.mem_of_getElem? found)
    exact ⟨node, member, objectBuilt.nodeType.symm.trans carries⟩
  · rintro ⟨node, member, rfl⟩
    obtain ⟨id, _, placed, _, _⟩ := built.found node member
    exact ⟨id, placed⟩

theorem positions_eq (same : list.SameNodes other) (built : SchemaBuilt list schema)
    (otherBuilt : SchemaBuilt other otherSchema) (tag : String) :
    otherSchema.objectId? tag =
      (schema.objectId? tag).map (schema.placeIn otherSchema) := by
  have present : (otherSchema.objectId? tag).isSome ↔ (schema.objectId? tag).isSome := by
    rw [otherBuilt.objectId?_isSome_iff same.distinct_other,
      built.objectId?_isSome_iff same.distinct]
    simp only [same.nodes.mem_iff]
  cases placed : schema.objectId? tag with
  | none =>
      simpa [placed] using present
  | some id =>
      obtain ⟨otherId, otherPlaced⟩ :=
        Option.isSome_iff_exists.mp (present.mpr (by rw [placed]; rfl))
      rw [otherPlaced, Option.map_some,
        built.place_of_position same.distinct _ tag id otherId placed otherPlaced]

theorem object_at (same : list.SameNodes other) (built : SchemaBuilt list schema)
    (otherBuilt : SchemaBuilt other otherSchema) {id : Nat} {object : ObjectType R}
    (found : schema.objects[id]? = some object) :
    schema.objectId? object.nodeType = some id ∧
      otherSchema.objects[schema.placeIn otherSchema id]? =
        some (object.rename (schema.placeIn otherSchema)) := by
  have placed : schema.objectId? object.nodeType = some id :=
    (Schema.objectId?_eq_some_iff (built.types_nodup same.distinct)).mpr ⟨object, found, rfl⟩
  refine ⟨placed, ?_⟩
  obtain ⟨node, member, objectBuilt⟩ := built.owned object (List.mem_of_getElem? found)
  obtain ⟨otherId, otherObject, otherPlaced, otherFound, otherObjectBuilt⟩ :=
    otherBuilt.found node (same.nodes.mem_iff.mp member)
  have places := built.place_of_position same.distinct otherSchema
  rw [objectBuilt.nodeType] at placed
  rw [← places _ _ _ placed otherPlaced, otherFound,
    same.object_renamed places objectBuilt otherObjectBuilt]

theorem root?_eq_some_iff (built : SchemaBuilt list schema) (distinct : list.Distinct)
    {name : String} {root : RootField R} :
    schema.root? name = some root ↔ ∃ node ∈ list.nodes, node.name = name ∧
      root ∈ schema.roots ∧ RootBuilt list schema.objectId? node root := by
  have named : ∀ {node : Node R} {root : RootField R},
      RootBuilt list schema.objectId? node root → root.name = node.name := by
    rintro _ _ ⟨⟩
    rfl
  constructor
  · intro found
    have member := List.mem_of_find?_eq_some found
    obtain ⟨node, registered, rootBuilt⟩ := exists_left_of_forall₂ built.roots member
    have carries : root.name = name := by simpa using List.find?_some found
    exact ⟨node, registered, (named rootBuilt).symm.trans carries, member, rootBuilt⟩
  · rintro ⟨node, registered, rfl, member, rootBuilt⟩
    have names : schema.roots.map RootField.name = list.nodes.map Node.name :=
      (map_eq_of_forall₂ built.roots fun _ _ built => (named built).symm).symm
    have unique : (schema.roots.map RootField.name).Nodup := names ▸ distinct.names
    cases found : schema.root? node.name with
    | none =>
        have missing := List.find?_eq_none.mp found root member
        simp [named rootBuilt] at missing
    | some other =>
        have carries : other.name = node.name := by simpa using List.find?_some found
        rw [List.inj_on_of_nodup_map unique (List.mem_of_find?_eq_some found) member
          (carries.trans (named rootBuilt).symm)]

theorem roots_eq (same : list.SameNodes other) (built : SchemaBuilt list schema)
    (otherBuilt : SchemaBuilt other otherSchema) (name : String) :
    otherSchema.root? name =
      (schema.root? name).map (RootField.rename (schema.placeIn otherSchema)) := by
  have places := built.place_of_position same.distinct otherSchema
  have otherDistinct := same.distinct_other
  cases found : schema.root? name with
  | some root =>
      obtain ⟨node, member, named, _, rootBuilt⟩ :=
        (built.root?_eq_some_iff same.distinct).mp found
      obtain ⟨otherRoot, otherMember, otherRootBuilt⟩ :=
        exists_right_of_forall₂ otherBuilt.roots (same.nodes.mem_iff.mp member)
      rw [(otherBuilt.root?_eq_some_iff otherDistinct).mpr
        ⟨node, same.nodes.mem_iff.mp member, named, otherMember, otherRootBuilt⟩,
        Option.map_some, same.root_renamed places rootBuilt otherRootBuilt]
  | none =>
      cases otherFound : otherSchema.root? name with
      | none => rfl
      | some otherRoot =>
          obtain ⟨node, member, named, _⟩ :=
            (otherBuilt.root?_eq_some_iff otherDistinct).mp otherFound
          obtain ⟨root, rootMember, rootBuilt⟩ :=
            exists_right_of_forall₂ built.roots (same.nodes.mem_iff.mpr member)
          rw [(built.root?_eq_some_iff same.distinct).mpr
            ⟨node, same.nodes.mem_iff.mpr member, named, rootMember, rootBuilt⟩] at found
          cases found

/-- Schemas that are built of the same nodes differ in the positions of their objects only. -/
theorem renamed (same : list.SameNodes other) (built : SchemaBuilt list schema)
    (otherBuilt : SchemaBuilt other otherSchema) :
    Schema.Renamed (schema.placeIn otherSchema) schema otherSchema := by
  refine ⟨?_, ?_, positions_eq same built otherBuilt,
    fun id object found => (object_at same built otherBuilt found).2,
    roots_eq same built otherBuilt, ?_⟩
  · have lengths := (otherBuilt.types.trans
      ((same.nodes.map Node.nodeType).symm.trans built.types.symm)).length_eq
    simpa using lengths
  · intro first second firstBound secondBound samePlace
    obtain ⟨firstPlaced, firstFound⟩ :=
      object_at same built otherBuilt (List.getElem?_eq_getElem firstBound)
    obtain ⟨secondPlaced, secondFound⟩ :=
      object_at same built otherBuilt (List.getElem?_eq_getElem secondBound)
    rw [samePlace, secondFound, Option.some.injEq] at firstFound
    have sameTag := congrArg ObjectType.nodeType firstFound
    simp only [ObjectType.rename] at sameTag
    rw [sameTag, firstPlaced] at secondPlaced
    exact Option.some.inj secondPlaced
  · rw [built.arguments, otherBuilt.arguments, same.arguments]

end SchemaBuilt

end NodeGraph
