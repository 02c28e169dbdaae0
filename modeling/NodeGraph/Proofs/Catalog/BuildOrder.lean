import NodeGraph.Proofs.Catalog.Exactness
import NodeGraph.Proofs.RelatedLists
import NodeGraph.Proofs.Schema.Traversal

/-!
# The order of a build

Whatever nodes refer to each other, the build of a node terminates at every point that a build of
a catalog passes through, those in the middle of the fields of other nodes included.  If it gives a
position, it has only added objects, one for each node of the depth-first preorder that had none,
and has converted the fields of these nodes once.  So the objects of a schema stand in the
depth-first preorder of the nodes.
-/

namespace NodeGraph

variable {R : Type}

namespace Arena

/-- What the build of a node that gives a position makes of an arena: the nodes of a preorder get
the next positions, in order, and a log tells of the conversions. -/
structure Built (list : NodeList R) (before : Arena R) (index id : Nat) (after : Arena R)
    (order : List Nat) (log : List (BuildEvent R)) : Prop where
  given : after.objectId? index = some id
  appended : before.objects <+: after.objects
  kept : ∀ other position, before.objectId? other = some position →
    after.objectId? other = some position
  waiting : ∀ (other position : Nat), before.states[other]? = some (.allocated position) →
    after.states[other]? = some (.allocated position) ∧
      ∃ object, after.objects[position]? = some object ∧ object.complete = false
  completed : ∀ (other position : Nat), before.objectId? other = none →
    after.objectId? other = some position → after.states[other]? = some (.complete position) ∧
      ∃ object, after.objects[position]? = some object ∧ object.complete = true
  resolved : ∀ (other position : Nat), after.states[other]? = some (.complete position) →
    ∃ node, list.nodes[other]? = some node ∧ ∀ field ∈ node.fields, ∀ tag,
      field.fieldType = .node tag →
        ∃ target targetPosition, list.indexOf? tag = some target ∧
          after.objectId? target = some targetPosition
  injective : ∀ first second position, after.objectId? first = some position →
    after.objectId? second = some position → first = second
  carries : ∀ other position, after.objectId? other = some position →
    ∃ node object, list.nodes[other]? = some node ∧ after.objects[position]? = some object ∧
      ObjectAllocated list node object
  once : ∀ other, eventsOf other log =
    if before.objectId? other = none ∧ after.objectId? other ≠ none then list.conversions other
    else []
  preorder : ∀ visited, DepthFirst list.references before.placed [index] visited ↔ visited = order
  length : after.objects.length = before.objects.length + order.length
  positions : ∀ other position, after.objectId? other = some position ↔
    before.objectId? other = some position ∨
      ∃ offset, order[offset]? = some other ∧ position = before.objects.length + offset

/-- The build of a node comes to an end.  If no task is left then, it has given a position and made
of the arena what it should, and the function gives this position and this arena; otherwise it has
failed, and the function gives its fault.  The depth of the function plays no part, so long as there
are not more nodes without an object. -/
structure BuildEnds (list : NodeList R) (arena : Arena R) (index : Nat) : Prop where
  terminates : BuildPoint.Terminates list (.call index arena)
  builds : ∀ log after, BuildRun list (.call index arena) log ⟨after, []⟩ →
    ∃ id order, Built list arena index id after order log
  gives_iff : ∀ depth, arena.unbuilt ≤ depth → ∀ id after,
    buildNode list depth index arena = .ok (id, after) ↔
      after.objectId? index = some id ∧ ∃ log, BuildRun list (.call index arena) log ⟨after, []⟩
  fails_iff : ∀ depth, arena.unbuilt ≤ depth → ∀ fault,
    buildNode list depth index arena = .error fault ↔
      ∃ log last, BuildRun list (.call index arena) log last ∧
        last.step? list = some (.error fault)

theorem references_resolved {list : NodeList R} {arena : Arena R}
    (consistent : Consistent list arena) {index id : Nat}
    (completed : arena.states[index]? = some (.complete id)) :
    ∃ node, list.nodes[index]? = some node ∧ ∀ field ∈ node.fields, ∀ tag,
      field.fieldType = .node tag →
        ∃ target position, list.indexOf? tag = some target ∧
          arena.objectId? target = some position := by
  obtain ⟨node, object, found, _, _, fields⟩ := consistent.completed index id completed
  refine ⟨node, found, ?_⟩
  intro field declares tag refers
  obtain ⟨built, _, fieldBuilt⟩ := exists_right_of_forall₂ fields declares
  cases fieldBuilt with
  | scalar scalar typed => simp [typed] at refers
  | reference target position arguments typed registered placed defined =>
      obtain rfl : target.nodeType = tag := by simpa [typed] using refers
      obtain ⟨other, indexed, otherPlaced⟩ := Option.bind_eq_some_iff.mp placed
      exact ⟨other, position, indexed, otherPlaced⟩

theorem built_of_visit {list : NodeList R} {before after : Arena R} {index id : Nat}
    {order : List Nat} {log : List (BuildEvent R)} (unfinished : before.Unfinished)
    (grows : Grows list before after) (given : after.objectId? index = some id)
    (visit : Visits list [] [index] before after order log) :
    Built list before index id after order log where
  given := given
  appended := visit.extended.objects
  kept := grows.kept
  waiting := by
    intro other position pending
    obtain ⟨object, found, incomplete⟩ := unfinished other position pending
    exact ⟨visit.extended.states other _ pending (by simp), object,
      visit.extended.object_kept found, incomplete⟩
  completed := by
    intro other position unplaced placed
    have completed := grows.complete unplaced placed
    obtain ⟨_, object, _, found, complete, _⟩ :=
      grows.consistent.completed other position completed
    exact ⟨completed, object, found, complete⟩
  resolved := fun _ _ => references_resolved grows.consistent
  injective := grows.consistent.injective
  carries := grows.consistent.allocated
  once := by
    intro other
    rw [visit.events, eventsOf_nil, List.nil_append]
    refine if_congr ?_ rfl rfl
    rw [visit.extended.mem_order_iff, mem_placed, Option.ne_none_iff_exists']
  preorder := visit.preorder.iff_eq
  length := visit.extended.length
  positions := visit.extended.positions

/-- Every node is built to an end on the arena of a sound point. -/
theorem buildEnds_of_sound {list : NodeList R} {point : BuildPoint R} (sound : point.Sound list)
    {index : Nat} (registered : index < list.nodes.length) : point.arena.BuildEnds list index := by
  have follows : ∀ depth, point.arena.unbuilt ≤ depth →
      Follows list (.call index point.arena) (buildNode list depth index point.arena)
        (fun _ after => ⟨after, []⟩)
        fun after log => ∃ order, Visits list [] [index] point.arena after order log :=
    fun depth enough => buildNode_follows list depth index _ [] registered sound.consistent enough
  have advances := fun depth enough =>
    buildNode_advances list depth index point.arena registered sound.consistent enough
  refine ⟨(follows _ (Nat.le_refl _)).terminates, ?_, ?_, ?_⟩
  · intro log after run
    obtain ⟨id, built, order, visit⟩ := (follows _ (Nat.le_refl _)).exists_ok run
    obtain ⟨grows, given⟩ := (advances _ (Nat.le_refl _)).of_ok built
    exact ⟨id, order, built_of_visit sound.unfinished grows given visit⟩
  · intro depth enough id after
    constructor
    · intro built
      have followed := follows depth enough
      rw [built] at followed
      obtain ⟨log, run, _⟩ := followed
      exact ⟨((advances depth enough).of_ok built).2, log, run⟩
    · rintro ⟨given, log, run⟩
      obtain ⟨other, built, _⟩ := (follows depth enough).exists_ok run
      have otherGiven := ((advances depth enough).of_ok built).2
      obtain rfl : other = id := by simpa [given] using otherGiven.symm
      exact built
  · intro depth enough fault
    constructor
    · intro failed
      have followed := follows depth enough
      rwa [failed] at followed
    · rintro ⟨log, last, run, failed⟩
      exact (follows depth enough).eq_error run failed

end Arena

/-- The objects of a schema are those of the nodes in the depth-first preorder from all nodes on,
in the order of their registration, and a log tells that the fields of each node are converted
once. -/
structure Schema.InPreorder (schema : Schema R) (list : NodeList R)
    (log : List (BuildEvent R)) : Prop where
  objects : ∃ order,
    (∀ visited, DepthFirst list.references ∅ (List.range list.nodes.length) visited ↔
      visited = order) ∧
    List.Forall₂ (fun index object => ∃ node, list.nodes[index]? = some node ∧
      ObjectAllocated list node object) order schema.objects
  once : ∀ index, eventsOf index log = list.conversions index

namespace NodeList

open Arena

/-- What is visited from the start on stands where the preorder says. -/
theorem forall₂_objects_of_visit {list : NodeList R} {arena : Arena R} {todo order : List Nat}
    {log : List (BuildEvent R)} (consistent : Consistent list arena)
    (visit : Visits list [] todo (.start list) arena order log) :
    List.Forall₂ (fun index object => ∃ node, list.nodes[index]? = some node ∧
      ObjectAllocated list node object) order arena.objects := by
  have sameLength : order.length = arena.objects.length := by
    simpa [Arena.start] using visit.extended.length.symm
  refine List.forall₂_iff_get.mpr ⟨sameLength, ?_⟩
  intro position inOrder inObjects
  have placed : arena.objectId? order[position] = some position :=
    (visit.extended.positions _ _).mpr
      (.inr ⟨position, List.getElem?_eq_getElem inOrder, by simp [Arena.start]⟩)
  obtain ⟨node, object, found, objectFound, allocated⟩ :=
    consistent.allocated order[position] position placed
  obtain rfl : arena.objects[position] = object := by
    simpa [List.getElem?_eq_getElem inObjects] using objectFound
  exact ⟨node, found, allocated⟩

theorem events_of_visit {list : NodeList R} {arena : Arena R} {order : List Nat}
    {log : List (BuildEvent R)}
    (visit : Visits list [] (List.range list.nodes.length) (.start list) arena order log)
    (index : Nat) : eventsOf index log = list.conversions index := by
  rw [visit.events, eventsOf_nil, List.nil_append]
  by_cases registered : index < list.nodes.length
  · have covered := visit.preorder.covers (List.mem_range.mpr registered)
    have given : index ∈ order := by simpa [placed_start] using covered
    rw [if_pos given]
  · have unknown : list.nodes[index]? = none :=
      List.getElem?_eq_none (Nat.le_of_not_lt registered)
    simp [conversions, unknown]

end NodeList

namespace Catalog

theorem Reachable.inPreorder {catalog : Catalog R} (reachable : catalog.Reachable)
    {schema : Schema R} (built : catalog.schema.1 = .ok schema) :
    ∃ log arena, BuildRun catalog.list (.start catalog.list) log ⟨arena, []⟩ ∧
      arena.objects = schema.objects ∧ schema.InPreorder catalog.list log := by
  rw [reachable.schema_eq] at built
  have assembled := (freshSchema_eq_ok_iff.mp built).1
  have indexed := reachable.coherent.distinct.indexed
  have follows := NodeList.assemble_follows indexed
  unfold NodeList.assemble at assembled
  cases rooted : catalog.list.buildRoots 0 catalog.list.nodes (.start catalog.list) with
  | error fault => simp [rooted, bind, Except.bind] at assembled
  | ok pair =>
      obtain ⟨roots, arena⟩ := pair
      simp only [rooted, bind, Except.bind, pure, Except.pure, Except.ok.injEq] at assembled
      subst assembled
      rw [rooted] at follows
      obtain ⟨log, run, order, visit⟩ := follows
      have consistent := (run.sound (BuildPoint.sound_start indexed)).consistent
      refine ⟨log, arena, run, rfl, ⟨order, ?_, ?_⟩, ?_⟩
      · exact Arena.placed_start catalog.list ▸ visit.preorder.iff_eq
      · exact NodeList.forall₂_objects_of_visit consistent visit
      · exact NodeList.events_of_visit visit

/-- Every build of a node, at every point that a build of a reachable catalog passes through, comes
to an end and gives positions in depth-first preorder; so do all builds together, and the objects
of a schema stand in this order. -/
theorem builds_end_in_preorder {catalog : Catalog R} (reachable : catalog.Reachable) :
    (∀ passed point, BuildRun catalog.list (.start catalog.list) passed point →
      ∀ index < catalog.nodes.length, point.arena.BuildEnds catalog.list index) ∧
    BuildPoint.Terminates catalog.list (.start catalog.list) ∧
    ∀ schema, catalog.schema.1 = .ok schema →
      ∃ log arena, BuildRun catalog.list (.start catalog.list) log ⟨arena, []⟩ ∧
        arena.objects = schema.objects ∧ schema.InPreorder catalog.list log := by
  have indexed := reachable.coherent.distinct.indexed
  refine ⟨?_, (NodeList.assemble_follows indexed).terminates, fun _ => reachable.inPreorder⟩
  intro passed point run index registered
  exact Arena.buildEnds_of_sound (run.sound (BuildPoint.sound_start indexed)) registered

/-- A build of the organisation passes through a point at which teams wait for their fields, and
from which persons are built completely. -/
theorem organisation_opens_teams :
    ∃ point, BuildRun organisation.list (.start organisation.list) [.opened 0] point ∧
      point.arena.states = [.allocated 0, .unbuilt] ∧
      ((Arena.buildNode organisation.list 1 1 point.arena).toOption.map fun pair =>
        (pair.1, pair.2.states)) = some (1, [.allocated 0, .complete 1]) := by
  refine ⟨_, .single rfl, rfl, ?_⟩
  decide +kernel

/-- Persons refer back to teams, which wait, and to themselves, so they are the only nodes that are
visited from persons on. -/
theorem persons_preorder {arena : Arena Unit} (states : arena.states = [.allocated 0, .unbuilt]) :
    DepthFirst organisation.list.references arena.placed [1] [1] := by
  have teamsPlaced : 0 ∈ arena.placed := by
    simp [Arena.mem_placed, Arena.objectId?, states, BuildState.objectId?]
  have personsUnplaced : 1 ∉ arena.placed := by
    simp [Arena.mem_placed, Arena.objectId?, states, BuildState.objectId?]
  have refers : organisation.list.references 1 = [0, 1] := by decide +kernel
  have inner : DepthFirst organisation.list.references (insert 1 arena.placed)
      (organisation.list.references 1) [] := by
    rw [refers]
    exact .skip (.inr teamsPlaced) (.skip (.inl rfl) (.nil _))
  exact .visit personsUnplaced inner (.nil _)

/-- The build of persons in the middle of the build of teams ends with teams as they were. -/
theorem organisation_builds_persons_below_teams :
    organisation.Reachable ∧ ∃ point after log,
      BuildRun organisation.list (.start organisation.list) [.opened 0] point ∧
      point.arena.states = [.allocated 0, .unbuilt] ∧
      point.arena.BuildEnds organisation.list 1 ∧
      Arena.buildNode organisation.list 1 1 point.arena = .ok (1, after) ∧
      after.states = [.allocated 0, .complete 1] ∧
      Arena.Built organisation.list point.arena 1 1 after [1] log ∧
      ∃ schema log, organisation.schema.1 = .ok schema ∧
        schema.InPreorder organisation.list log := by
  obtain ⟨schema, succeeds⟩ := exists_organisation_schema
  obtain ⟨point, run, states, result⟩ := organisation_opens_teams
  obtain ⟨ends, _, inPreorder⟩ := builds_end_in_preorder organisation_reachable
  have personsEnd := ends _ point run 1 (by decide)
  have enough : point.arena.unbuilt ≤ 1 := by simp [Arena.unbuilt, states]
  cases returned : Arena.buildNode organisation.list 1 1 point.arena with
  | error fault => simp [returned, Except.toOption] at result
  | ok pair =>
      obtain ⟨id, after⟩ := pair
      obtain ⟨rfl, statesAfter⟩ : id = 1 ∧ after.states = [.allocated 0, .complete 1] := by
        simpa [returned, Except.toOption] using result
      obtain ⟨given, log, personsRun⟩ := (personsEnd.gives_iff 1 enough 1 after).mp returned
      obtain ⟨id, order, built⟩ := personsEnd.builds log after personsRun
      obtain rfl : id = 1 := by simpa [given] using built.given.symm
      obtain rfl := (built.preorder [1]).mp (persons_preorder states)
      obtain ⟨schemaLog, _, _, _, ordered⟩ := inPreorder schema succeeds
      exact ⟨organisation_reachable, point, after, log, run, states, personsEnd, returned,
        statesAfter, built, schema, schemaLog, succeeds, ordered⟩

end Catalog

end NodeGraph
