import NodeGraph.Proofs.Schema.Building
import Mathlib.Data.List.Nodup

/-!
# Assembled schemas

When the build of all nodes succeeds, every node has one complete object, and looking up a
type tag in the schema finds the object of the node that carries it.  The tags of the
objects are those of the nodes in some order.
-/

namespace NodeGraph

variable {R : Type}

/-- The root field of a node in a schema whose objects stand at given positions. -/
inductive RootBuilt (list : NodeList R) (position : String → Option Nat) :
    Node R → RootField R → Prop
  | mk (node : Node R) (id : Nat) (arguments : List ArgumentDefinition)
      (placed : position node.nodeType = some id)
      (defined : ArgumentsDefined list.arguments node.arguments arguments) :
      RootBuilt list position node
        { name := node.name
          nodeType := node.nodeType
          output := .forNode id node.isList
          arguments := arguments
          resolver := node.resolver }

theorem RootBuilt.mono {list : NodeList R} {before after : String → Option Nat}
    (kept : ∀ tag id, before tag = some id → after tag = some id)
    {node : Node R} {root : RootField R} (rootBuilt : RootBuilt list before node root) :
    RootBuilt list after node root := by
  cases rootBuilt with
  | mk id arguments placed defined => exact .mk node id arguments (kept _ _ placed) defined

namespace NodeList

/-- Nodes with pairwise distinct names, and with the type tags that the index lists. -/
structure Distinct (list : NodeList R) : Prop where
  names : (list.nodes.map Node.name).Nodup
  indexed : list.Indexed

theorem Distinct.types {list : NodeList R} (distinct : list.Distinct) :
    (list.nodes.map Node.nodeType).Nodup :=
  distinct.indexed.nodup

theorem Distinct.indexOf?_nodeType {list : NodeList R} (distinct : list.Distinct)
    {index : Nat} {node : Node R} (found : list.nodes[index]? = some node) :
    list.indexOf? node.nodeType = some index :=
  (indexOf?_eq_some_iff distinct.indexed).mpr ⟨node, found, rfl⟩

end NodeList

namespace Schema

theorem idFrom?_eq_none_iff {tag : String} {first : Nat} {objects : List (ObjectType R)} :
    idFrom? tag first objects = none ↔ ∀ object ∈ objects, object.nodeType ≠ tag := by
  induction objects generalizing first with
  | nil => simp [idFrom?]
  | cons object rest ih =>
      rw [idFrom?]
      cases later : idFrom? tag (first + 1) rest with
      | none =>
          rw [ih] at later
          by_cases carries : object.nodeType = tag
          · simp [carries]
          · simpa [carries] using later
      | some id =>
          have someCarries : ¬ ∀ other ∈ rest, other.nodeType ≠ tag := by
            rw [← @ih (first + 1), later]
            simp
          simp only [List.mem_cons, forall_eq_or_imp, reduceCtorEq, false_iff]
          exact fun all => someCarries all.2

theorem getElem?_of_idFrom? {tag : String} {first id : Nat} {objects : List (ObjectType R)}
    (found : idFrom? tag first objects = some id) :
    ∃ offset object, objects[offset]? = some object ∧ object.nodeType = tag ∧
      id = first + offset := by
  induction objects generalizing first with
  | nil => simp [idFrom?] at found
  | cons object rest ih =>
      rw [idFrom?] at found
      cases later : idFrom? tag (first + 1) rest with
      | some other =>
          simp only [later, Option.some.injEq] at found
          subst found
          obtain ⟨offset, object, objectFound, carries, position⟩ := ih later
          exact ⟨offset + 1, object, by simpa using objectFound, carries, by omega⟩
      | none =>
          simp only [later] at found
          split at found
          · next carries => exact ⟨0, object, by simp, carries, by simpa using found.symm⟩
          · simp at found

theorem objectId?_eq_some_iff {schema : Schema R}
    (distinct : (schema.objects.map ObjectType.nodeType).Nodup) {tag : String} {id : Nat} :
    schema.objectId? tag = some id ↔
      ∃ object, schema.objects[id]? = some object ∧ object.nodeType = tag := by
  constructor
  · intro found
    obtain ⟨offset, object, objectFound, carries, position⟩ := getElem?_of_idFrom? found
    obtain rfl : id = offset := by omega
    exact ⟨object, objectFound, carries⟩
  · rintro ⟨object, objectFound, carries⟩
    cases found : schema.objectId? tag with
    | none =>
        exact absurd carries
          (idFrom?_eq_none_iff.mp found object (List.mem_of_getElem? objectFound))
    | some other =>
        obtain ⟨offset, target, targetFound, targetCarries, position⟩ := getElem?_of_idFrom? found
        have bound : offset < (schema.objects.map ObjectType.nodeType).length := by
          simpa using (List.getElem?_eq_some_iff.mp targetFound).1
        have same : (schema.objects.map ObjectType.nodeType)[offset]? =
            (schema.objects.map ObjectType.nodeType)[id]? := by
          simp [targetFound, objectFound, carries, targetCarries]
        have offsetEq := (List.getElem?_inj bound distinct).mp same
        rw [position, offsetEq, Nat.zero_add]

end Schema

namespace NodeList

open Arena

/-- All root fields are built once every node is. -/
theorem buildRoots_advances {list : NodeList R} (distinct : list.Distinct)
    (before remaining : List (Node R)) (split : list.nodes = before ++ remaining)
    {arena : Arena R} (consistent : Consistent list arena) :
    Advances list arena (list.buildRoots before.length remaining arena)
      fun roots after => List.Forall₂ (RootBuilt list (after.position? list)) remaining roots := by
  induction remaining generalizing before arena with
  | nil => exact .ok (.refl consistent) .nil
  | cons node rest ih =>
      have found : list.nodes[before.length]? = some node := by simp [split]
      have bound := (List.getElem?_eq_some_iff.mp found).1
      have enough : arena.unbuilt ≤ list.nodes.length := by
        rw [← consistent.length]
        exact List.count_le_length
      rw [buildRoots]
      refine (buildNode_advances list _ before.length arena bound consistent enough).bind ?_
      intro id middle grows placed
      have later := ih (before ++ [node]) (by simpa using split) grows.consistent
      rw [List.length_append, List.length_singleton] at later
      refine later.bind ?_
      intro others after moreGrows othersBuilt
      refine .ok (.refl moreGrows.consistent) (.cons ?_ othersBuilt)
      have positioned : middle.position? list node.nodeType = some id := by
        simpa [position?, distinct.indexOf?_nodeType found] using placed
      have rootBuilt : RootBuilt list (middle.position? list) node _ :=
        .mk node id _ positioned (argumentsOf_defined grows.consistent found placed)
      exact rootBuilt.mono fun tag id => position?_mono moreGrows.kept tag id

/-- A schema in which every node is complete. -/
structure Assembled (list : NodeList R) (schema : Schema R) (arena : Arena R) : Prop where
  consistent : Consistent list arena
  complete : ∀ index < list.nodes.length, ∃ id, arena.states[index]? = some (.complete id)
  objects : schema.objects = arena.objects
  arguments : schema.arguments = list.arguments
  roots : List.Forall₂ (RootBuilt list (arena.position? list)) list.nodes schema.roots

/-- Assembling distinct nodes gives a schema of complete objects or fails over an
unregistered name. -/
theorem assemble_outcome {list : NodeList R} (distinct : list.Distinct) :
    (∃ schema arena, list.assemble = .ok schema ∧ Assembled list schema arena) ∨
      ∃ fault, list.assemble = .error fault ∧ Unresolved list fault := by
  have built : Advances list (start list) (list.buildRoots 0 list.nodes (start list))
      fun roots after => List.Forall₂ (RootBuilt list (after.position? list)) list.nodes roots :=
    buildRoots_advances distinct [] list.nodes rfl (consistent_start distinct.indexed)
  unfold assemble
  generalize list.buildRoots 0 list.nodes (start list) = result at built
  cases result with
  | error fault => exact .inr ⟨fault, rfl, built⟩
  | ok pair =>
      obtain ⟨roots, arena⟩ := pair
      obtain ⟨grows, rootsBuilt⟩ := built
      refine .inl ⟨_, arena, rfl, grows.consistent, ?_, rfl, rfl, rootsBuilt⟩
      intro index bound
      have found := List.getElem?_eq_getElem bound
      -- The root field of a node shows that the node is allocated.
      have rootBuilt := rootsBuilt.get bound (rootsBuilt.length_eq ▸ bound)
      obtain ⟨id, placed⟩ : ∃ id, arena.objectId? index = some id := by
        generalize roots.get _ = root at rootBuilt
        obtain ⟨id, arguments, placed, defined⟩ := rootBuilt
        exact ⟨id, by simpa [position?, distinct.indexOf?_nodeType found] using placed⟩
      exact ⟨id, grows.complete (objectId?_start list index) placed⟩

end NodeList

/-- The finished object of a node in a schema whose objects stand at given positions. -/
structure ObjectBuilt (list : NodeList R) (position : String → Option Nat) (node : Node R)
    (object : ObjectType R) : Prop extends ObjectAllocated list node object where
  complete : object.complete = true
  fields : List.Forall₂ (FieldBuilt list position) node.fields object.fields

/-- A schema that holds one finished object and one root field for each node. -/
structure SchemaBuilt (list : NodeList R) (schema : Schema R) : Prop where
  types : (schema.objects.map ObjectType.nodeType).Perm (list.nodes.map Node.nodeType)
  found : ∀ node ∈ list.nodes, ∃ id object, schema.objectId? node.nodeType = some id ∧
    schema.objects[id]? = some object ∧ ObjectBuilt list schema.objectId? node object
  owned : ∀ object ∈ schema.objects, ∃ node ∈ list.nodes,
    ObjectBuilt list schema.objectId? node object
  roots : List.Forall₂ (RootBuilt list schema.objectId?) list.nodes schema.roots
  arguments : schema.arguments = list.arguments

namespace NodeList.Assembled

variable {list : NodeList R} {schema : Schema R} {arena : Arena R}

theorem object_of_node (assembled : Assembled list schema arena) {index : Nat} {node : Node R}
    (found : list.nodes[index]? = some node) :
    ∃ id object, arena.objectId? index = some id ∧ schema.objects[id]? = some object ∧
      ObjectBuilt list (arena.position? list) node object := by
  obtain ⟨id, state⟩ := assembled.complete index (List.getElem?_eq_some_iff.mp found).1
  have placed := (Arena.objectId?_eq_some_iff arena index id).mpr (.inr state)
  obtain ⟨owner, object, ownerFound, objectFound, allocated⟩ :=
    assembled.consistent.allocated index id placed
  obtain ⟨holder, completed, holderFound, completedFound, complete, fields⟩ :=
    assembled.consistent.completed index id state
  obtain rfl : owner = node := by simpa [ownerFound] using found
  obtain rfl : holder = owner := by simpa [holderFound] using ownerFound
  obtain rfl : completed = object := by simpa [completedFound] using objectFound
  exact ⟨id, completed, placed, by rw [assembled.objects]; exact objectFound,
    ⟨allocated, complete, fields⟩⟩

theorem node_of_object (assembled : Assembled list schema arena) {id : Nat}
    {object : ObjectType R} (found : schema.objects[id]? = some object) :
    ∃ index node, list.nodes[index]? = some node ∧ arena.objectId? index = some id ∧
      ObjectBuilt list (arena.position? list) node object := by
  obtain ⟨index, placed⟩ := assembled.consistent.owned id object (assembled.objects ▸ found)
  obtain ⟨node, _, nodeFound, _, _⟩ := assembled.consistent.allocated index id placed
  obtain ⟨other, same, otherPlaced, sameFound, built⟩ := assembled.object_of_node nodeFound
  obtain rfl : other = id := by simpa [otherPlaced] using placed
  obtain rfl : same = object := by simpa [sameFound] using found
  exact ⟨index, node, nodeFound, placed, built⟩

theorem types_nodup (assembled : Assembled list schema arena) (distinct : list.Distinct) :
    (schema.objects.map ObjectType.nodeType).Nodup := by
  rw [List.nodup_iff_getElem?_ne_getElem?]
  intro first second ordered bounded same
  simp only [List.length_map] at bounded
  have firstFound := List.getElem?_eq_getElem (Nat.lt_trans ordered bounded)
  have secondFound := List.getElem?_eq_getElem bounded
  obtain ⟨firstIndex, firstNode, firstNodeFound, firstPlaced, firstBuilt⟩ :=
    assembled.node_of_object firstFound
  obtain ⟨secondIndex, secondNode, secondNodeFound, secondPlaced, secondBuilt⟩ :=
    assembled.node_of_object secondFound
  have sameType : firstNode.nodeType = secondNode.nodeType := by
    rw [← firstBuilt.nodeType, ← secondBuilt.nodeType]
    simpa [firstFound, secondFound] using same
  have firstIndexed := distinct.indexOf?_nodeType firstNodeFound
  rw [sameType, distinct.indexOf?_nodeType secondNodeFound] at firstIndexed
  obtain rfl : secondIndex = firstIndex := by simpa using firstIndexed
  have equal : first = second := by simpa [firstPlaced] using secondPlaced
  omega

theorem position?_eq (assembled : Assembled list schema arena) (distinct : list.Distinct) :
    arena.position? list = schema.objectId? := by
  funext tag
  apply Option.ext
  intro id
  rw [Schema.objectId?_eq_some_iff (assembled.types_nodup distinct)]
  constructor
  · intro placed
    unfold Arena.position? at placed
    obtain ⟨index, indexed, indexPlaced⟩ := Option.bind_eq_some_iff.mp placed
    obtain ⟨node, found, carries⟩ := (indexOf?_eq_some_iff distinct.indexed).mp indexed
    obtain ⟨other, object, otherPlaced, objectFound, built⟩ := assembled.object_of_node found
    obtain rfl : other = id := by simpa [otherPlaced] using indexPlaced
    exact ⟨object, objectFound, built.nodeType.trans carries⟩
  · rintro ⟨object, objectFound, carries⟩
    obtain ⟨index, node, found, placed, built⟩ := assembled.node_of_object objectFound
    have indexed := distinct.indexOf?_nodeType found
    rw [← built.nodeType, carries] at indexed
    simp [Arena.position?, indexed, placed]

theorem types_perm (assembled : Assembled list schema arena) (distinct : list.Distinct) :
    (schema.objects.map ObjectType.nodeType).Perm (list.nodes.map Node.nodeType) := by
  rw [List.perm_ext_iff_of_nodup (assembled.types_nodup distinct) distinct.types]
  intro tag
  simp only [List.mem_map]
  constructor
  · rintro ⟨object, member, rfl⟩
    obtain ⟨id, found⟩ := List.getElem?_of_mem member
    obtain ⟨_, node, nodeFound, _, built⟩ := assembled.node_of_object found
    exact ⟨node, List.mem_of_getElem? nodeFound, built.nodeType.symm⟩
  · rintro ⟨node, member, rfl⟩
    obtain ⟨index, found⟩ := List.getElem?_of_mem member
    obtain ⟨_, object, _, objectFound, built⟩ := assembled.object_of_node found
    exact ⟨object, List.mem_of_getElem? objectFound, built.nodeType⟩

theorem schemaBuilt (assembled : Assembled list schema arena) (distinct : list.Distinct) :
    SchemaBuilt list schema := by
  have positions := assembled.position?_eq distinct
  refine ⟨assembled.types_perm distinct, ?_, ?_, positions ▸ assembled.roots,
    assembled.arguments⟩
  · intro node member
    obtain ⟨index, found⟩ := List.getElem?_of_mem member
    obtain ⟨id, object, placed, objectFound, built⟩ := assembled.object_of_node found
    refine ⟨id, object, ?_, objectFound, positions ▸ built⟩
    rw [← positions]
    simpa [Arena.position?, distinct.indexOf?_nodeType found] using placed
  · intro object member
    obtain ⟨id, found⟩ := List.getElem?_of_mem member
    obtain ⟨_, node, nodeFound, _, built⟩ := assembled.node_of_object found
    exact ⟨node, List.mem_of_getElem? nodeFound, positions ▸ built⟩

end NodeList.Assembled

end NodeGraph
