import NodeGraph.Proofs.Schema.Visits

/-!
# Builds along their references

The functions that convert fields and build nodes go through the steps of a build, and the steps
lead to what the functions give.  So a build with as much depth as there are nodes without an
object comes to the end that the steps come to, to which no depth is given, and what succeeds is
a visit.  This is proved for one field, for the fields of a node, for a node by induction on the
depth and for all nodes.
-/

namespace NodeGraph

variable {R : Type} {list : NodeList R}

/-- The steps from a point come to where a function ends, with a log for which a statement holds,
or to the fault of the function. -/
def Follows (list : NodeList R) (point : BuildPoint R) {α : Type}
    (result : Except GraphError (α × Arena R)) (stop : α → Arena R → BuildPoint R)
    (holds : Arena R → List (BuildEvent R) → Prop) : Prop :=
  match result with
  | .ok (value, after) => ∃ log, BuildRun list point log (stop value after) ∧ holds after log
  | .error fault => ∃ log last, BuildRun list point log last ∧
      last.step? list = some (.error fault)

namespace Follows

variable {α β : Type} {point : BuildPoint R} {result : Except GraphError (α × Arena R)}
  {stop : α → Arena R → BuildPoint R} {holds : Arena R → List (BuildEvent R) → Prop}

theorem imp {weaker : Arena R → List (BuildEvent R) → Prop}
    (follows : Follows list point result stop holds)
    (implied : ∀ after log, holds after log → weaker after log) :
    Follows list point result stop weaker := by
  cases result with
  | error fault => exact follows
  | ok pair =>
      obtain ⟨log, run, held⟩ := follows
      exact ⟨log, run, implied _ log held⟩

theorem of_run {log : List (BuildEvent R)} {next : BuildPoint R}
    (run : BuildRun list point log next)
    (follows : Follows list next result stop fun after more => holds after (log ++ more)) :
    Follows list point result stop holds := by
  cases result with
  | error fault =>
      obtain ⟨more, last, later, failed⟩ := follows
      exact ⟨log ++ more, last, run.trans later, failed⟩
  | ok pair =>
      obtain ⟨more, later, held⟩ := follows
      exact ⟨log ++ more, run.trans later, held⟩

theorem bind {next : α × Arena R → Except GraphError (β × Arena R)}
    {stopNext : β → Arena R → BuildPoint R} {holdsNext : Arena R → List (BuildEvent R) → Prop}
    (first : Follows list point result stop holds)
    (second : ∀ value after log, result = .ok (value, after) → holds after log →
      Follows list (stop value after) (next (value, after)) stopNext
        fun last more => holdsNext last (log ++ more)) :
    Follows list point (result >>= next) stopNext holdsNext := by
  cases result with
  | error fault => exact first
  | ok pair =>
      obtain ⟨value, after⟩ := pair
      obtain ⟨log, run, held⟩ := first
      exact of_run run (second value after log rfl held)

section Ending

variable (follows : Follows list point result (fun _ after => ⟨after, []⟩) holds)

include follows

/-- Where nothing is left to do, and where a step fails, a build stops. -/
theorem terminates : point.Terminates list := by
  cases result with
  | error fault =>
      obtain ⟨log, last, run, failed⟩ := follows
      exact run.terminates (BuildPoint.stuck_of_failed failed)
  | ok pair =>
      obtain ⟨log, run, _⟩ := follows
      exact run.terminates (BuildPoint.stuck_of_finished list _)

/-- A function succeeds if the steps come to the end of all tasks. -/
theorem exists_ok {after : Arena R} {log : List (BuildEvent R)}
    (run : BuildRun list point log ⟨after, []⟩) :
    ∃ value, result = .ok (value, after) ∧ holds after log := by
  have finished := BuildPoint.stuck_of_finished list after
  cases result with
  | error fault =>
      obtain ⟨more, last, otherRun, failed⟩ := follows
      obtain ⟨_, rfl⟩ := run.unique otherRun finished (BuildPoint.stuck_of_failed failed)
      cases failed
  | ok pair =>
      obtain ⟨value, other⟩ := pair
      obtain ⟨more, otherRun, held⟩ := follows
      obtain ⟨rfl, same⟩ := run.unique otherRun finished (BuildPoint.stuck_of_finished list other)
      obtain rfl := (BuildPoint.mk.inj same).1
      exact ⟨value, rfl, held⟩

/-- A function fails if a step does. -/
theorem eq_error {last : BuildPoint R} {log : List (BuildEvent R)} {fault : GraphError}
    (run : BuildRun list point log last) (failed : last.step? list = some (.error fault)) :
    result = .error fault := by
  have stuck := BuildPoint.stuck_of_failed failed
  cases result with
  | error other =>
      obtain ⟨more, otherLast, otherRun, otherFailed⟩ := follows
      obtain ⟨_, rfl⟩ := run.unique otherRun stuck (BuildPoint.stuck_of_failed otherFailed)
      rw [failed] at otherFailed
      obtain rfl := Except.error.inj (Option.some.inj otherFailed)
      rfl
  | ok pair =>
      obtain ⟨more, otherRun, _⟩ := follows
      obtain ⟨_, rfl⟩ := run.unique otherRun stuck (BuildPoint.stuck_of_finished list _)
      cases failed

end Ending

end Follows

namespace Arena

/-- What the build of nodes does, before any later tasks, on all arenas with few enough nodes left
to build. -/
def BuildsInOrder (list : NodeList R) (depth : Nat)
    (build : Nat → Arena R → Except GraphError (Nat × Arena R)) : Prop :=
  ∀ index arena later, index < list.nodes.length → Consistent list arena → arena.unbuilt ≤ depth →
    Follows list ⟨arena, .build index :: later⟩ (build index arena) (fun _ after => ⟨after, later⟩)
      fun after log => ∃ order, Visits list [] [index] arena after order log

section Fields

variable {depth : Nat} {build : Nat → Arena R → Except GraphError (Nat × Arena R)}
  {field : Field R} {arena : Arena R}

theorem convertField_of_unreferring (unreferring : list.reference? field = none) :
    convertField list build field arena = convertField list lookUp field arena := by
  unfold convertField
  cases declared : field.fieldType with
  | scalar scalar => rfl
  | node tag =>
      have unknown : list.indexOf? tag = none := by
        simpa [NodeList.reference?, declared, FieldType.nodeType?] using unreferring
      simp only [unknown]

/-- A field that refers to a node is converted once the node is built. -/
theorem convertField_of_reference {target : Nat} (refers : list.reference? field = some target)
    (places : ∀ id after, build target arena = .ok (id, after) →
      after.objectId? target = some id) :
    convertField list build field arena =
      build target arena >>= fun pair => convertField list lookUp field pair.2 := by
  unfold convertField
  cases declared : field.fieldType with
  | scalar scalar => simp [NodeList.reference?, declared, FieldType.nodeType?] at refers
  | node tag =>
      have indexed : list.indexOf? tag = some target := by
        simpa [NodeList.reference?, declared, FieldType.nodeType?] using refers
      simp only [indexed]
      cases built : build target arena with
      | error fault => rfl
      | ok pair =>
          obtain ⟨id, after⟩ := pair
          simp [lookUp, places id after built, bind, Except.bind]

theorem attach_follows (current : OpenNode R) (field : Field R) (remaining : List (Field R))
    (later : List (BuildTask R)) (consistent : Consistent list arena) :
    Follows list ⟨arena, .attach current field remaining :: later⟩
      (convertField list lookUp field arena)
      (fun built after => ⟨after, .convert (current.add [built]) remaining :: later⟩)
      fun after log => Visits list [.converted current.index field] [] arena after [] log := by
  cases converted : convertField list lookUp field arena with
  | error fault => exact ⟨[], _, .refl _, congrArg some (step_attach_of_failed converted)⟩
  | ok pair =>
      obtain ⟨built, after⟩ := pair
      obtain ⟨rfl, _⟩ := convertField_lookUp consistent converted
      exact ⟨_, .single (congrArg some (step_attach_of_converted converted)), .refl _ _⟩

theorem convertField_follows (builds : BuildsNodes list depth build)
    (inOrder : BuildsInOrder list depth build) (current : OpenNode R) (field : Field R)
    (remaining : List (Field R)) (later : List (BuildTask R)) (consistent : Consistent list arena)
    (enough : arena.unbuilt ≤ depth) (held : current.index ∈ arena.placed) :
    Follows list ⟨arena, .convert current (field :: remaining) :: later⟩
      (convertField list build field arena)
      (fun built after => ⟨after, .convert (current.add [built]) remaining :: later⟩)
      fun after log => ∃ order, Visits list [.converted current.index field]
        (list.reference? field).toList arena after order log := by
  have opened : BuildRun list ⟨arena, .convert current (field :: remaining) :: later⟩ []
      ⟨arena, (list.reference? field).toList.map .build ++
        .attach current field remaining :: later⟩ := .single rfl
  refine .of_run opened ?_
  cases refers : list.reference? field with
  | none =>
      rw [convertField_of_unreferring refers]
      exact (attach_follows current field remaining later consistent).imp
        fun _ _ visit => ⟨[], visit⟩
  | some target =>
      have registered := reference?_lt consistent.indexed refers
      have advances := builds target arena registered consistent enough
      rw [convertField_of_reference refers fun id after built => (advances.of_ok built).2]
      refine (inOrder target arena _ registered consistent enough).bind ?_
      rintro id after log built ⟨order, visit⟩
      have grows := (advances.of_ok built).1
      refine (attach_follows current field remaining later grows.consistent).imp ?_
      intro last more attached
      exact ⟨order ++ [], visit.trans attached (by simpa using held)⟩

theorem convertFields_follows (builds : BuildsNodes list depth build)
    (inOrder : BuildsInOrder list depth build) {node : Node R} (registered : node ∈ list.nodes)
    {fields : List (Field R)} (declares : ∀ field ∈ fields, field ∈ node.fields)
    (current : OpenNode R) (later : List (BuildTask R)) (consistent : Consistent list arena)
    (enough : arena.unbuilt ≤ depth) (held : current.index ∈ arena.placed) :
    Follows list ⟨arena, .convert current fields :: later⟩ (convertFields list build fields arena)
      (fun built after => ⟨after, .convert (current.add built) [] :: later⟩)
      fun after log => ∃ order, Visits list (fields.map (.converted current.index))
        (fields.filterMap list.reference?) arena after order log := by
  induction fields generalizing current arena with
  | nil => exact ⟨[], by simpa using BuildRun.refl _, [], .refl _ _⟩
  | cons field rest ih =>
      rw [convertFields]
      have advances := convertField_advances builds registered
        (declares field List.mem_cons_self) consistent enough
      refine (convertField_follows builds inOrder current field rest later consistent enough
        held).bind ?_
      rintro built middle log converted ⟨order, visit⟩
      have grows := (advances.of_ok converted).1
      refine (ih (fun other member => declares other (List.mem_cons_of_mem field member))
        (current.add [built]) grows.consistent (Nat.le_trans grows.unbuilt_le enough)
        (visit.extended.placed_eq ▸ .inl held)).bind ?_
      rintro others after more _ ⟨moreOrder, moreVisit⟩
      have visited := visit.trans moreVisit (by simpa using fun _ _ => held)
      refine ⟨[], by simpa using BuildRun.refl _, order ++ moreOrder, ?_⟩
      cases refers : list.reference? field <;> simpa [refers] using visited

end Fields

theorem buildNode_of_placed {depth index id : Nat} {arena : Arena R}
    (placed : arena.objectId? index = some id) :
    buildNode list depth index arena = .ok (id, arena) := by
  unfold buildNode
  rw [placed]

/-- A node without an object is built with its object allocated before its fields are converted. -/
theorem buildNode_of_fresh {depth index : Nat} {arena : Arena R} {node : Node R}
    (fresh : Fresh list arena index node) :
    buildNode list (depth + 1) index arena = do
      let arguments ← list.argumentConfig [] node.arguments
      let (fields, after) ← convertFields list (buildNode list depth) node.fields
        (arena.allocate index node arguments)
      return (arena.objects.length, after.finish index arena.objects.length fields) := by
  rw [buildNode, fresh.unplaced, fresh.found]

theorem buildNode_follows_of_placed {depth index id : Nat} {arena : Arena R}
    (later : List (BuildTask R)) (placed : arena.objectId? index = some id) :
    Follows list ⟨arena, .build index :: later⟩ (buildNode list depth index arena)
      (fun _ after => ⟨after, later⟩)
      fun after log => ∃ order, Visits list [] [index] arena after order log := by
  rw [buildNode_of_placed placed]
  exact ⟨[], .single (congrArg some (step_build_of_placed placed)), [], .passed ⟨id, placed⟩⟩

theorem buildNode_follows_of_fresh {depth index : Nat} {arena : Arena R} {node : Node R}
    (inOrder : BuildsInOrder list depth (buildNode list depth)) (later : List (BuildTask R))
    (consistent : Consistent list arena) (fresh : Fresh list arena index node)
    (enough : arena.unbuilt ≤ depth + 1) :
    Follows list ⟨arena, .build index :: later⟩ (buildNode list (depth + 1) index arena)
      (fun _ after => ⟨after, later⟩)
      fun after log => ∃ order, Visits list [] [index] arena after order log := by
  rw [buildNode_of_fresh fresh]
  rcases list.argumentConfig_outcome node.arguments with
    ⟨arguments, config, defined⟩ | ⟨kind, _, _, refused⟩
  · let current : OpenNode R := { index, id := arena.objects.length }
    have opened : BuildRun list ⟨arena, .build index :: later⟩ [.opened index]
        ⟨arena.allocate index node arguments, .convert current node.fields :: later⟩ :=
      .single (congrArg some (step_build_of_fresh fresh config))
    have counted := unbuilt_allocate arguments consistent fresh
    have held : index ∈ (arena.allocate index node arguments).placed :=
      ⟨_, by rw [objectId?_allocate arguments consistent fresh, if_pos rfl]⟩
    rw [config]
    -- what a field calls for is done before the next field, and all fields before the later tasks
    refine .of_run opened ((convertFields_follows (buildNode_advances list depth) inOrder
      (List.mem_of_getElem? fresh.found) (fun _ member => member) current later
      (consistent_allocate consistent fresh defined) (by omega) held).bind ?_)
    rintro fields after log _ ⟨order, inner⟩
    refine ⟨[], .single rfl, index :: order, ?_⟩
    simpa using inner.node consistent fresh fields
  · rw [refused]
    exact ⟨[], _, .refl _, congrArg some (step_build_of_refused fresh refused)⟩

/-- The build of a node goes along the steps of a build and visits the nodes below it. -/
theorem buildNode_follows (list : NodeList R) (depth : Nat) :
    BuildsInOrder list depth (buildNode list depth) := by
  -- the node takes its place before its fields are converted, so each level has fewer to build
  induction depth with
  | zero =>
      intro index arena later bound consistent enough
      cases placed : arena.objectId? index with
      | some id => exact buildNode_follows_of_placed later placed
      | none =>
          have fresh : Fresh list arena index _ := ⟨List.getElem?_eq_getElem bound, placed⟩
          have counted := unbuilt_allocate [] consistent fresh
          omega
  | succ depth ih =>
      intro index arena later bound consistent enough
      cases placed : arena.objectId? index with
      | some id => exact buildNode_follows_of_placed later placed
      | none =>
          have fresh : Fresh list arena index _ := ⟨List.getElem?_eq_getElem bound, placed⟩
          exact buildNode_follows_of_fresh ih later consistent fresh enough

end Arena

open Arena in
/-- The nodes are built one after another, each below what came before it. -/
theorem NodeList.buildRoots_follows (before remaining : List (Node R))
    (split : list.nodes = before ++ remaining) {arena : Arena R}
    (consistent : Consistent list arena) :
    Follows list ⟨arena, (List.range' before.length remaining.length).map .build⟩
      (list.buildRoots before.length remaining arena) (fun _ after => ⟨after, []⟩)
      fun after log => ∃ order, Visits list [] (List.range' before.length remaining.length) arena
        after order log := by
  induction remaining generalizing before arena with
  | nil => exact ⟨[], .refl _, [], .refl _ _⟩
  | cons node rest ih =>
      have bound : before.length < list.nodes.length := by simp [split]
      have enough : arena.unbuilt ≤ list.nodes.length := by
        rw [← consistent.length]
        exact List.count_le_length
      have advances := buildNode_advances list _ before.length arena bound consistent enough
      rw [buildRoots]
      refine (buildNode_follows list _ before.length arena _ bound consistent enough).bind ?_
      rintro id middle log built ⟨order, visit⟩
      have later := ih (before ++ [node]) (by simpa using split)
        (advances.of_ok built).1.consistent
      rw [List.length_append, List.length_singleton] at later
      refine later.bind ?_
      rintro others after more _ ⟨moreOrder, moreVisit⟩
      refine ⟨[], .refl _, order ++ moreOrder, ?_⟩
      simpa [List.range'_succ] using visit.trans moreVisit (by simp)

/-- The build of all nodes starts where its steps start. -/
theorem NodeList.assemble_follows {list : NodeList R} (indexed : list.Indexed) :
    Follows list (.start list) (list.buildRoots 0 list.nodes (.start list))
      (fun _ after => ⟨after, []⟩)
      fun after log => ∃ order, Visits list [] (List.range list.nodes.length) (.start list)
        after order log := by
  rw [BuildPoint.start, List.range_eq_range']
  exact buildRoots_follows [] list.nodes rfl (Arena.consistent_start indexed)

end NodeGraph
