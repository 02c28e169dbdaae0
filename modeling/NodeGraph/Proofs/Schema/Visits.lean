import NodeGraph.Proofs.Schema.Machine

/-!
# Visits

A build gives objects to some nodes, one after another.  Their positions follow those that were
given out before, and whatever had a position keeps it, its state and its object.  A visit is such
an extension of an arena along the depth-first preorder of the references, in which every node
that is given an object has its fields converted once.  A visit that adds no node, two visits one
after another and the visit of a node around that of its references are visits.
-/

namespace NodeGraph

variable {R : Type}

namespace Arena

/-- The nodes that have an object. -/
def placed (arena : Arena R) : Set Nat := {index | ∃ id, arena.objectId? index = some id}

theorem mem_placed {arena : Arena R} {index : Nat} :
    index ∈ arena.placed ↔ ∃ id, arena.objectId? index = some id :=
  Iff.rfl

theorem notMem_placed {arena : Arena R} {index : Nat} :
    index ∉ arena.placed ↔ arena.objectId? index = none := by
  rw [mem_placed, Option.eq_none_iff_forall_ne_some, not_exists]

theorem placed_start (list : NodeList R) : (start list).placed = ∅ := by
  ext index
  simp [mem_placed]

/-- Some nodes are given objects at the end of the list, in order.  The objects that were there
before, and the states of their nodes, are the same. -/
structure Extends (before after : Arena R) (order : List Nat) : Prop where
  objects : before.objects <+: after.objects
  length : after.objects.length = before.objects.length + order.length
  states : ∀ (index : Nat) state, before.states[index]? = some state → state ≠ .unbuilt →
    after.states[index]? = some state
  unplaced : ∀ index ∈ order, before.objectId? index = none
  positions : ∀ index id, after.objectId? index = some id ↔
    before.objectId? index = some id ∨
      ∃ offset, order[offset]? = some index ∧ id = before.objects.length + offset

namespace Extends

variable {first second third : Arena R} {order more : List Nat}

theorem refl (arena : Arena R) : Extends arena arena [] :=
  ⟨List.prefix_refl _, rfl, fun _ _ found _ => found, by simp, by simp⟩

theorem object_kept (extended : Extends first second order) {id : Nat} {object : ObjectType R}
    (found : first.objects[id]? = some object) : second.objects[id]? = some object := by
  obtain ⟨added, split⟩ := extended.objects
  rw [← split, List.getElem?_append_left (List.getElem?_eq_some_iff.mp found).1, found]

theorem placed_eq (extended : Extends first second order) :
    second.placed = first.placed ∪ {index | index ∈ order} := by
  ext index
  rw [Set.mem_union, mem_placed, mem_placed, Set.mem_ofPred_eq]
  constructor
  · rintro ⟨id, found⟩
    rcases (extended.positions index id).mp found with known | ⟨offset, member, _⟩
    · exact .inl ⟨id, known⟩
    · exact .inr (List.mem_of_getElem? member)
  · rintro (⟨id, known⟩ | member)
    · exact ⟨id, (extended.positions index id).mpr (.inl known)⟩
    · obtain ⟨offset, found⟩ := List.getElem?_of_mem member
      exact ⟨_, (extended.positions index _).mpr (.inr ⟨offset, found, rfl⟩)⟩

/-- The nodes that are given objects are those that have one only afterwards. -/
theorem mem_order_iff (extended : Extends first second order) (index : Nat) :
    index ∈ order ↔ first.objectId? index = none ∧ index ∈ second.placed := by
  rw [extended.placed_eq, Set.mem_union, Set.mem_ofPred_eq, ← notMem_placed]
  constructor
  · exact fun member => ⟨notMem_placed.mpr (extended.unplaced index member), .inr member⟩
  · rintro ⟨unknown, known | member⟩
    · exact absurd known unknown
    · exact member

theorem trans (earlier : Extends first second order) (later : Extends second third more) :
    Extends first third (order ++ more) := by
  refine ⟨earlier.objects.trans later.objects, ?_, ?_, ?_, ?_⟩
  · rw [later.length, earlier.length, List.length_append, Nat.add_assoc]
  · intro index state found built
    exact later.states index state (earlier.states index state found built) built
  · intro index member
    rcases List.mem_append.mp member with member | member
    · exact earlier.unplaced index member
    · have unplaced := later.unplaced index member
      rw [← notMem_placed, earlier.placed_eq, Set.mem_union, not_or] at unplaced
      exact notMem_placed.mp unplaced.1
  · intro index id
    rw [later.positions, earlier.positions, or_assoc, earlier.length]
    refine or_congr_right ?_
    constructor
    · rintro (⟨offset, found, position⟩ | ⟨offset, found, position⟩)
      · have bound := (List.getElem?_eq_some_iff.mp found).1
        exact ⟨offset, by rw [List.getElem?_append_left bound, found], position⟩
      · refine ⟨order.length + offset, ?_, by omega⟩
        rw [List.getElem?_append_right (by omega), Nat.add_sub_cancel_left, found]
    · rintro ⟨offset, found, position⟩
      by_cases inFirst : offset < order.length
      · rw [List.getElem?_append_left inFirst] at found
        exact .inl ⟨offset, found, position⟩
      · rw [List.getElem?_append_right (by omega)] at found
        exact .inr ⟨offset - order.length, found, by omega⟩

theorem allocate {list : NodeList R} {arena : Arena R} {index : Nat} {node : Node R}
    (consistent : Consistent list arena) (fresh : Fresh list arena index node)
    (arguments : List ArgumentDefinition) :
    Extends arena (arena.allocate index node arguments) [index] := by
  refine ⟨⟨_, rfl⟩, by simp [Arena.allocate], ?_, ?_, ?_⟩
  · intro other state found built
    have different : index ≠ other := by
      rintro rfl
      exact built (state_eq_unbuilt fresh.unplaced found)
    simpa [Arena.allocate, different] using found
  · intro other member
    rw [List.mem_singleton.mp member]
    exact fresh.unplaced
  · intro other id
    rw [objectId?_allocate arguments consistent fresh]
    by_cases same : other = index
    · subst same
      simp [fresh.unplaced, List.getElem?_singleton, eq_comm]
    · have notFirst : ∀ offset : Nat, ¬ [index][offset]? = some other := by
        intro offset found
        exact same (List.mem_singleton.mp (List.mem_of_getElem? found))
      simp [same, notFirst]

/-- Completing a new object changes neither positions nor what was there before. -/
theorem finish {before middle : Arena R} {index id : Nat} (extended : Extends before middle order)
    (unplaced : before.objectId? index = none) (placed : middle.objectId? index = some id)
    (new : before.objects.length ≤ id) (fields : List (SchemaField R)) :
    Extends before (middle.finish index id fields) order := by
  refine ⟨?_, ?_, ?_, extended.unplaced, ?_⟩
  · rw [List.prefix_iff_getElem?]
    intro position bound
    -- only the object at a new position is changed
    have apart : id ≠ position := by omega
    simpa [Arena.finish, apart] using List.prefix_iff_getElem?.mp extended.objects position bound
  · simpa [Arena.finish] using extended.length
  · intro other state found built
    have different : index ≠ other := by
      rintro rfl
      exact built (state_eq_unbuilt unplaced found)
    simpa [Arena.finish, different] using extended.states other state found built
  · intro other position
    rw [objectId?_finish fields placed]
    exact extended.positions other position

end Extends

end Arena

/-- The events of a log that are about one node. -/
def eventsOf (index : Nat) (log : List (BuildEvent R)) : List (BuildEvent R) :=
  log.filter fun event => event.index == index

@[simp]
theorem eventsOf_nil (index : Nat) : eventsOf index ([] : List (BuildEvent R)) = [] := rfl

@[simp]
theorem eventsOf_append (index : Nat) (log more : List (BuildEvent R)) :
    eventsOf index (log ++ more) = eventsOf index log ++ eventsOf index more :=
  List.filter_append log more

theorem eventsOf_eq_nil {index : Nat} {log : List (BuildEvent R)}
    (others : ∀ event ∈ log, event.index ≠ index) : eventsOf index log = [] := by
  simpa [eventsOf, List.filter_eq_nil_iff] using others

theorem eventsOf_opened (index other : Nat) :
    eventsOf other [.opened index] =
      if index = other then [(.opened index : BuildEvent R)] else [] := by
  by_cases same : index = other <;> simp [eventsOf, same]

theorem eventsOf_converted (index other : Nat) (fields : List (Field R)) :
    eventsOf other (fields.map (.converted index)) =
      if index = other then fields.map (.converted index) else [] := by
  split
  · next same => exact List.filter_eq_self.mpr (by simp [same])
  · next different => exact eventsOf_eq_nil (by simp [different])

/-- The events of a node whose fields are converted, each of them once. -/
def NodeList.conversions (list : NodeList R) (index : Nat) : List (BuildEvent R) :=
  match list.nodes[index]? with
  | some node => .opened index :: node.fields.map (.converted index)
  | none => []

/-- An extension of an arena along the preorder from some nodes on.  Its log has the conversions of
the nodes that are given objects, once for each of them, and some events of its own. -/
structure Visits (list : NodeList R) (own : List (BuildEvent R)) (todo : List Nat)
    (before after : Arena R) (order : List Nat) (log : List (BuildEvent R)) : Prop where
  extended : before.Extends after order
  preorder : DepthFirst list.references before.placed todo order
  events : ∀ index, eventsOf index log =
    eventsOf index own ++ if index ∈ order then list.conversions index else []

namespace Visits

variable {list : NodeList R} {first second third : Arena R}

theorem refl (own : List (BuildEvent R)) (arena : Arena R) :
    Visits list own [] arena arena [] own :=
  ⟨.refl arena, .nil _, by simp⟩

theorem passed {arena : Arena R} {index : Nat} (known : index ∈ arena.placed) :
    Visits list [] [index] arena arena [] [] :=
  ⟨.refl arena, .skip known (.nil _), by simp⟩

/-- One visit after another.  The nodes of the later events of its own had objects before, so that
none of these events is mixed up with conversions of the first visit. -/
theorem trans {own moreOwn log more : List (BuildEvent R)}
    {todo moreTodo order moreOrder : List Nat}
    (earlier : Visits list own todo first second order log)
    (later : Visits list moreOwn moreTodo second third moreOrder more)
    (held : ∀ event ∈ moreOwn, event.index ∈ first.placed) :
    Visits list (own ++ moreOwn) (todo ++ moreTodo) first third (order ++ moreOrder)
      (log ++ more) := by
  refine ⟨earlier.extended.trans later.extended, ?_, ?_⟩
  · exact earlier.preorder.append (earlier.extended.placed_eq ▸ later.preorder)
  · intro index
    rw [eventsOf_append, eventsOf_append, earlier.events, later.events]
    by_cases given : index ∈ order
    · have unplaced := earlier.extended.unplaced index given
      have noOwn : eventsOf index moreOwn = [] := eventsOf_eq_nil fun event member same =>
        Arena.notMem_placed.mpr unplaced (same ▸ held event member)
      have notAgain : index ∉ moreOrder := fun again =>
        Arena.notMem_placed.mpr (later.extended.unplaced index again)
          (earlier.extended.placed_eq ▸ .inr given)
      simp [given, noOwn, notAgain]
    · simp [given]

/-- The visit of a node around the visit of what its fields refer to. -/
theorem node {arena middle : Arena R} {index : Nat} {node : Node R}
    (consistent : arena.Consistent list) (fresh : arena.Fresh list index node)
    {arguments : List ArgumentDefinition} {order : List Nat} {log : List (BuildEvent R)}
    (inner : Visits list (node.fields.map (.converted index))
      (node.fields.filterMap list.reference?) (arena.allocate index node arguments) middle order
      log)
    (fields : List (SchemaField R)) :
    Visits list [] [index] arena (middle.finish index arena.objects.length fields)
      (index :: order) (.opened index :: log) := by
  have allocated := Arena.Extends.allocate consistent fresh arguments
  have placedAfter : (arena.allocate index node arguments).placed = insert index arena.placed := by
    ext other
    simp [allocated.placed_eq, or_comm]
  have placed : middle.objectId? index = some arena.objects.length := by
    refine (inner.extended.positions index _).mpr (.inl ?_)
    rw [Arena.objectId?_allocate arguments consistent fresh, if_pos rfl]
  refine ⟨?_, ?_, ?_⟩
  · exact (allocated.trans inner.extended).finish fresh.unplaced placed (Nat.le_refl _) fields
  · have visited : DepthFirst list.references arena.placed [index] (index :: order ++ []) := by
      refine .visit (Arena.notMem_placed.mpr fresh.unplaced) ?_ (.nil _)
      rw [NodeList.references_eq fresh.found, ← placedAfter]
      exact inner.preorder
    simpa using visited
  · intro other
    rw [← List.singleton_append, eventsOf_append, inner.events, eventsOf_opened,
      eventsOf_converted]
    by_cases same : index = other
    · subst same
      have notAgain : index ∉ order := fun again =>
        Arena.notMem_placed.mpr (inner.extended.unplaced index again)
          (placedAfter ▸ Set.mem_insert index _)
      simp [NodeList.conversions, fresh.found, notAgain]
    · simp [same, Ne.symm same]

end Visits

end NodeGraph
