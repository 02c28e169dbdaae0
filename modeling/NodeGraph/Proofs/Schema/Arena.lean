import NodeGraph.Proofs.Schema.NodeIndex
import Mathlib.Data.List.Forall2

/-!
# Consistent arenas

While a schema is built, some nodes have no object yet, some have an object whose fields
are still being converted, and some are complete.  An arena is consistent if positions and
allocated nodes correspond to each other, every object carries the tag, the type name and
the arguments of its node, and every complete node has exactly the fields it declares.
Allocating an object and giving an object its fields keep an arena consistent.
-/

namespace NodeGraph

variable {R : Type}

/-- What a list of kinds defines: each kind once, where it is first named, typed with the
scalar of the registered kind. -/
structure ArgumentsDefined (registry : ArgumentRegistry) (kinds : List String)
    (definitions : List ArgumentDefinition) : Prop where
  names : definitions.map ArgumentDefinition.name = kinds.eraseDups
  typed : ∀ definition ∈ definitions, ∃ fresh,
    registry.fresh? definition.name = some fresh ∧ definition.typeName = fresh.scalarName

/-- The output of a field that refers to a node.  A tag that is also the name of a scalar
stands for the scalar. -/
def referenceOutput (target : Node R) (id : Nat) (asList : Option Bool) : OutputType :=
  match ScalarType.ofTag? target.nodeType with
  | some scalar => .scalar scalar
  | none => .forNode id (asList.getD target.isList)

/-- What a declared field becomes in a schema whose objects stand at given positions. -/
inductive FieldBuilt (list : NodeList R) (position : String → Option Nat) :
    Field R → SchemaField R → Prop
  | scalar (field : Field R) (scalar : ScalarType)
      (declared : field.fieldType = .scalar scalar) :
      FieldBuilt list position field
        { name := field.name
          output := if field.asList = some true then .list (.scalar scalar) else .scalar scalar
          resolver := field.resolver
          description := field.description }
  | reference (field : Field R) (target : Node R) (id : Nat)
      (arguments : List ArgumentDefinition)
      (declared : field.fieldType = .node target.nodeType)
      (registered : target ∈ list.nodes) (placed : position target.nodeType = some id)
      (defined : ArgumentsDefined list.arguments target.arguments arguments) :
      FieldBuilt list position field
        { name := field.name
          output := referenceOutput target id field.asList
          nodeType := some target.nodeType
          arguments := arguments
          resolver := field.resolver
          description := field.description }

theorem FieldBuilt.mono {list : NodeList R} {before after : String → Option Nat}
    (kept : ∀ tag id, before tag = some id → after tag = some id)
    {field : Field R} {built : SchemaField R} (fieldBuilt : FieldBuilt list before field built) :
    FieldBuilt list after field built := by
  cases fieldBuilt with
  | scalar scalar declared => exact .scalar field scalar declared
  | reference target id arguments declared registered placed defined =>
      exact .reference field target id arguments declared registered
        (kept _ _ placed) defined

/-- The object of a node, apart from its fields. -/
structure ObjectAllocated (list : NodeList R) (node : Node R) (object : ObjectType R) :
    Prop where
  nodeType : object.nodeType = node.nodeType
  name : object.name = Text.pascalCase node.nodeType
  arguments : ArgumentsDefined list.arguments node.arguments object.arguments

namespace Arena

/-- The position of the object of a type tag. -/
def position? (list : NodeList R) (arena : Arena R) (tag : String) : Option Nat :=
  (list.indexOf? tag).bind arena.objectId?

/-- The number of nodes without an object. -/
def unbuilt (arena : Arena R) : Nat := arena.states.count .unbuilt

/-- The correspondence between nodes and objects that holds all through a build. -/
structure Consistent (list : NodeList R) (arena : Arena R) : Prop where
  indexed : list.Indexed
  length : arena.states.length = list.nodes.length
  owned : ∀ (id : Nat) object, arena.objects[id]? = some object →
    ∃ index, arena.objectId? index = some id
  injective : ∀ first second id, arena.objectId? first = some id →
    arena.objectId? second = some id → first = second
  allocated : ∀ index id, arena.objectId? index = some id →
    ∃ node object, list.nodes[index]? = some node ∧ arena.objects[id]? = some object ∧
      ObjectAllocated list node object
  completed : ∀ (index id : Nat), arena.states[index]? = some (.complete id) →
    ∃ node object, list.nodes[index]? = some node ∧ arena.objects[id]? = some object ∧
      object.complete = true ∧
      List.Forall₂ (FieldBuilt list (arena.position? list)) node.fields object.fields

/-- How an arena changes over a step of the build that succeeds: allocated nodes keep their
positions, and every node that the step allocates is complete after it. -/
structure Grows (list : NodeList R) (before after : Arena R) : Prop where
  consistent : Consistent list after
  kept : ∀ index id, before.objectId? index = some id → after.objectId? index = some id
  pending : ∀ (index id : Nat), after.states[index]? = some (.allocated id) →
    before.states[index]? = some (.allocated id)
  unbuilt_le : after.unbuilt ≤ before.unbuilt

theorem Grows.refl {list : NodeList R} {arena : Arena R}
    (consistent : Consistent list arena) : Grows list arena arena :=
  ⟨consistent, fun _ _ found => found, fun _ _ found => found, Nat.le_refl _⟩

theorem Grows.trans {list : NodeList R} {first second third : Arena R}
    (earlier : Grows list first second) (later : Grows list second third) :
    Grows list first third :=
  ⟨later.consistent,
    fun index id found => later.kept index id (earlier.kept index id found),
    fun index id found => earlier.pending index id (later.pending index id found),
    Nat.le_trans later.unbuilt_le earlier.unbuilt_le⟩

theorem objectId?_eq_some_iff (arena : Arena R) (index id : Nat) :
    arena.objectId? index = some id ↔
      arena.states[index]? = some (.allocated id) ∨
        arena.states[index]? = some (.complete id) := by
  unfold objectId?
  rw [List.getD_eq_getElem?_getD]
  generalize arena.states[index]? = state
  cases state with
  | none => simp [BuildState.objectId?]
  | some state => cases state <;> simp [BuildState.objectId?]

/-- A node without an object before a step is complete if it has one afterwards. -/
theorem Grows.complete {list : NodeList R} {before after : Arena R}
    (grows : Grows list before after) {index id : Nat} (unplaced : before.objectId? index = none)
    (placed : after.objectId? index = some id) : after.states[index]? = some (.complete id) := by
  rcases (objectId?_eq_some_iff after index id).mp placed with pending | complete
  · have placedBefore := (objectId?_eq_some_iff before index id).mpr
      (.inl (grows.pending index id pending))
    simp [unplaced] at placedBefore
  · exact complete

theorem state_eq_unbuilt {arena : Arena R} {index : Nat} {state : BuildState}
    (unplaced : arena.objectId? index = none) (found : arena.states[index]? = some state) :
    state = .unbuilt := by
  rw [objectId?, List.getD_eq_getElem?_getD, found, Option.getD_some] at unplaced
  cases state with
  | unbuilt => rfl
  | allocated id => simp [BuildState.objectId?] at unplaced
  | complete id => simp [BuildState.objectId?] at unplaced

theorem position?_mono {list : NodeList R} {before after : Arena R}
    (kept : ∀ index id, before.objectId? index = some id → after.objectId? index = some id)
    (tag : String) (id : Nat) (placed : before.position? list tag = some id) :
    after.position? list tag = some id := by
  unfold position? at placed ⊢
  cases found : list.indexOf? tag with
  | none => simp [found] at placed
  | some index =>
      simp only [found, Option.bind_some] at placed ⊢
      exact kept index id placed

theorem argumentsOf_defined {list : NodeList R} {arena : Arena R}
    (consistent : Consistent list arena) {index id : Nat} {node : Node R}
    (found : list.nodes[index]? = some node) (placed : arena.objectId? index = some id) :
    ArgumentsDefined list.arguments node.arguments (arena.argumentsOf index) := by
  obtain ⟨owner, object, ownerFound, objectFound, allocated⟩ :=
    consistent.allocated index id placed
  have same : owner = node := by simpa [ownerFound] using found
  subst same
  have argumentsEq : arena.argumentsOf index = object.arguments := by
    simp [argumentsOf, placed, objectFound]
  rw [argumentsEq]
  exact allocated.arguments

@[simp]
theorem objectId?_start (list : NodeList R) (index : Nat) :
    (start list).objectId? index = none := by
  rw [Option.eq_none_iff_forall_ne_some]
  intro id placed
  rw [objectId?_eq_some_iff] at placed
  simp [start, List.getElem?_replicate] at placed

theorem consistent_start {list : NodeList R} (indexed : list.Indexed) :
    Consistent list (start list) := by
  refine ⟨indexed, by simp [start], ?_, ?_, ?_, ?_⟩
  · intro id object found
    simp [start] at found
  · intro first second id placed
    simp at placed
  · intro index id placed
    simp at placed
  · intro index id completed
    have placed := (objectId?_eq_some_iff _ index id).mpr (.inr completed)
    simp at placed

/-- A node without an object. -/
structure Fresh (list : NodeList R) (arena : Arena R) (index : Nat) (node : Node R) :
    Prop where
  found : list.nodes[index]? = some node
  unplaced : arena.objectId? index = none

theorem Fresh.states_eq {list : NodeList R} {arena : Arena R} {index : Nat} {node : Node R}
    (consistent : Consistent list arena)
    (fresh : Fresh list arena index node) : arena.states[index]? = some .unbuilt := by
  have bound : index < arena.states.length := by
    rw [consistent.length]
    exact (List.getElem?_eq_some_iff.mp fresh.found).1
  have stateFound := List.getElem?_eq_getElem bound
  rw [stateFound, state_eq_unbuilt fresh.unplaced stateFound]

section Allocate

variable {list : NodeList R} {arena : Arena R} {index : Nat} {node : Node R}
  (arguments : List ArgumentDefinition)

theorem objectId?_allocate (consistent : Consistent list arena)
    (fresh : Fresh list arena index node) (other : Nat) :
    (arena.allocate index node arguments).objectId? other =
      if other = index then some arena.objects.length else arena.objectId? other := by
  have bound : index < arena.states.length :=
    (List.getElem?_eq_some_iff.mp (fresh.states_eq consistent)).1
  by_cases same : other = index
  · subst same
    simp [objectId?, allocate, bound, BuildState.objectId?]
  · have different : index ≠ other := fun equal => same equal.symm
    simp [objectId?, allocate, same, different]

theorem unbuilt_allocate (consistent : Consistent list arena)
    (fresh : Fresh list arena index node) :
    (arena.allocate index node arguments).unbuilt + 1 = arena.unbuilt := by
  have stateFound := fresh.states_eq consistent
  obtain ⟨bound, stateEq⟩ := List.getElem?_eq_some_iff.mp stateFound
  have member : BuildState.unbuilt ∈ arena.states := stateEq ▸ List.getElem_mem bound
  have positive := List.count_pos_iff.mpr member
  simp only [unbuilt, allocate, List.count_set bound, stateEq]
  simp
  omega

/-- A node that has no object gets the next position. -/
theorem consistent_allocate (consistent : Consistent list arena)
    (fresh : Fresh list arena index node)
    {arguments : List ArgumentDefinition}
    (defined : ArgumentsDefined list.arguments node.arguments arguments) :
    Consistent list (arena.allocate index node arguments) := by
  have placed := objectId?_allocate arguments consistent fresh
  have keptPositions : ∀ other id, arena.objectId? other = some id →
      (arena.allocate index node arguments).objectId? other = some id := by
    intro other id known
    rw [placed, if_neg]
    · exact known
    · intro same
      simp [same, fresh.unplaced] at known
  have bounded : ∀ other id, arena.objectId? other = some id → id < arena.objects.length := by
    intro other id known
    obtain ⟨_, _, _, objectFound, _⟩ := consistent.allocated other id known
    exact (List.getElem?_eq_some_iff.mp objectFound).1
  have keptObjects : ∀ (id : Nat) object, arena.objects[id]? = some object →
      (arena.allocate index node arguments).objects[id]? = some object := by
    intro id object found
    have bound := (List.getElem?_eq_some_iff.mp found).1
    simp only [allocate]
    rw [List.getElem?_append_left bound]
    exact found
  refine ⟨consistent.indexed, ?_, ?_, ?_, ?_, ?_⟩
  · simpa [allocate] using consistent.length
  · intro id object found
    by_cases old : id < arena.objects.length
    · simp only [allocate] at found
      rw [List.getElem?_append_left old] at found
      obtain ⟨other, known⟩ := consistent.owned id object found
      exact ⟨other, keptPositions other id known⟩
    · have bound := (List.getElem?_eq_some_iff.mp found).1
      have last : id = arena.objects.length := by
        simp [allocate] at bound
        omega
      exact ⟨index, by rw [placed, if_pos rfl, last]⟩
  · intro first second id firstPlaced secondPlaced
    rw [placed] at firstPlaced secondPlaced
    split at firstPlaced <;> split at secondPlaced
    · omega
    · have bound := bounded second id secondPlaced
      simp at firstPlaced
      omega
    · have bound := bounded first id firstPlaced
      simp at secondPlaced
      omega
    · exact consistent.injective first second id firstPlaced secondPlaced
  · intro other id otherPlaced
    rw [placed] at otherPlaced
    split at otherPlaced
    · next same =>
        obtain rfl : arena.objects.length = id := by simpa using otherPlaced
        refine ⟨node,
          { name := Text.pascalCase node.nodeType, nodeType := node.nodeType, arguments },
          same ▸ fresh.found, ?_, ⟨rfl, rfl, defined⟩⟩
        simp [allocate]
    · obtain ⟨owner, object, ownerFound, objectFound, allocated⟩ :=
        consistent.allocated other id otherPlaced
      exact ⟨owner, object, ownerFound, keptObjects id object objectFound, allocated⟩
  · intro other id otherComplete
    have different : index ≠ other := by
      intro same
      subst same
      have bound : index < arena.states.length :=
        (List.getElem?_eq_some_iff.mp (fresh.states_eq consistent)).1
      simp [allocate, bound] at otherComplete
    have completeBefore : arena.states[other]? = some (.complete id) := by
      simpa [allocate, different] using otherComplete
    obtain ⟨owner, object, ownerFound, objectFound, complete, fields⟩ :=
      consistent.completed other id completeBefore
    refine ⟨owner, object, ownerFound, keptObjects id object objectFound, complete, ?_⟩
    exact fields.imp fun _ _ built =>
      built.mono fun tag id => position?_mono keptPositions tag id

end Allocate

section Finish

variable {list : NodeList R} {arena : Arena R} {index id : Nat} {node : Node R}
  (fields : List (SchemaField R))

theorem objectId?_finish (placed : arena.objectId? index = some id) (other : Nat) :
    (arena.finish index id fields).objectId? other = arena.objectId? other := by
  by_cases same : other = index
  · subst same
    have bound : other < arena.states.length := by
      rcases (objectId?_eq_some_iff arena other id).mp placed with state | state
      · exact (List.getElem?_eq_some_iff.mp state).1
      · exact (List.getElem?_eq_some_iff.mp state).1
    rw [placed]
    simp [objectId?, finish, bound, BuildState.objectId?]
  · have different : index ≠ other := fun equal => same equal.symm
    simp [objectId?, finish, different]

theorem unbuilt_finish_le (placed : arena.objectId? index = some id) :
    (arena.finish index id fields).unbuilt ≤ arena.unbuilt := by
  have bound : index < arena.states.length := by
    rcases (objectId?_eq_some_iff arena index id).mp placed with state | state
    · exact (List.getElem?_eq_some_iff.mp state).1
    · exact (List.getElem?_eq_some_iff.mp state).1
  simp only [unbuilt, finish, List.count_set bound]
  simp

/-- A node whose fields are all converted becomes complete; no other object changes. -/
theorem consistent_finish (consistent : Consistent list arena)
    {fields : List (SchemaField R)} (found : list.nodes[index]? = some node)
    (placed : arena.objectId? index = some id)
    (built : List.Forall₂ (FieldBuilt list (arena.position? list)) node.fields fields) :
    Consistent list (arena.finish index id fields) := by
  have samePositions := objectId?_finish fields placed
  have position_eq : (arena.finish index id fields).position? list = arena.position? list := by
    funext tag
    simp only [position?]
    congr 1
    funext other
    exact samePositions other
  have objects_eq : ∀ other : Nat, (arena.finish index id fields).objects[other]? =
      if other = id then
        (arena.objects[id]?).map fun object =>
          { object with fields := fields, complete := true }
      else arena.objects[other]? := by
    intro other
    by_cases same : other = id
    · subst same
      simp [finish]
    · have different : id ≠ other := fun equal => same equal.symm
      simp [finish, same, different]
  obtain ⟨owner, object, ownerFound, objectFound, allocated⟩ :=
    consistent.allocated index id placed
  refine ⟨consistent.indexed, ?_, ?_, ?_, ?_, ?_⟩
  · simpa [finish] using consistent.length
  · intro other changed changedFound
    have bound : other < arena.objects.length := by
      simpa [finish] using (List.getElem?_eq_some_iff.mp changedFound).1
    obtain ⟨holder, known⟩ :=
      consistent.owned other _ (List.getElem?_eq_getElem bound)
    exact ⟨holder, by rw [samePositions]; exact known⟩
  · intro first second other firstPlaced secondPlaced
    rw [samePositions] at firstPlaced secondPlaced
    exact consistent.injective first second other firstPlaced secondPlaced
  · intro other position otherPlaced
    rw [samePositions] at otherPlaced
    obtain ⟨otherNode, otherObject, nodeFound, otherFound, otherAllocated⟩ :=
      consistent.allocated other position otherPlaced
    by_cases same : position = id
    · subst same
      refine ⟨otherNode, _, nodeFound, by rw [objects_eq, if_pos rfl, otherFound]; rfl, ?_⟩
      exact ⟨otherAllocated.nodeType, otherAllocated.name, otherAllocated.arguments⟩
    · exact ⟨otherNode, otherObject, nodeFound, by rw [objects_eq, if_neg same]; exact otherFound,
        otherAllocated⟩
  · intro other position otherComplete
    rw [position_eq]
    by_cases same : other = index
    · subst same
      have bound : other < arena.states.length := by
        rw [consistent.length]
        exact (List.getElem?_eq_some_iff.mp found).1
      obtain rfl : id = position := by simpa [finish, bound] using otherComplete
      exact ⟨node, _, found, by rw [objects_eq, if_pos rfl, objectFound]; rfl, rfl, built⟩
    · have different : index ≠ other := fun equal => same equal.symm
      have completeBefore : arena.states[other]? = some (.complete position) := by
        simpa [finish, different] using otherComplete
      obtain ⟨otherNode, otherObject, nodeFound, otherFound, complete, otherFields⟩ :=
        consistent.completed other position completeBefore
      have apart : position ≠ id := by
        intro equal
        have otherPlaced := (objectId?_eq_some_iff arena other position).mpr (.inr completeBefore)
        exact same (consistent.injective other index id (equal ▸ otherPlaced) placed)
      exact ⟨otherNode, otherObject, nodeFound,
        by rw [objects_eq, if_neg apart]; exact otherFound, complete, otherFields⟩

end Finish

end Arena

end NodeGraph
