import NodeGraph.Proofs.Schema.Building
import NodeGraph.Proofs.Schema.DepthFirst

/-!
# Builds step by step

A build has a list of tasks before it: nodes to build, nodes whose fields are being converted and
fields whose nodes have been built.  One step does a part of the first task, so the points that a
build passes through include those in the middle of the fields of many nodes.  No bound on the
depth is given.

A step leaves no choice, so a run that cannot go on shows that its start terminates, and no other
run ends differently.  Every step keeps the arena consistent and the tasks in accord with it, and so
every point that a build passes through is sound.
-/

namespace NodeGraph

variable {R : Type}

/-- A node whose object is allocated and whose fields are being converted. -/
structure OpenNode (R : Type) where
  index : Nat
  id : Nat
  converted : List (SchemaField R) := []

/-- A node with more of its fields converted. -/
def OpenNode.add (current : OpenNode R) (built : List (SchemaField R)) : OpenNode R :=
  { current with converted := current.converted ++ built }

@[simp]
theorem OpenNode.index_add (current : OpenNode R) (built : List (SchemaField R)) :
    (current.add built).index = current.index := rfl

@[simp]
theorem OpenNode.add_nil (current : OpenNode R) : current.add [] = current := by
  simp [add]

@[simp]
theorem OpenNode.add_add (current : OpenNode R) (built more : List (SchemaField R)) :
    (current.add built).add more = current.add (built ++ more) := by
  simp [add]

/-- What a build still has to do: to build a node, to go on with the fields of a node in progress,
or to convert a field of it after the node that the field refers to. -/
inductive BuildTask (R : Type) where
  | build (index : Nat)
  | convert (current : OpenNode R) (remaining : List (Field R))
  | attach (current : OpenNode R) (field : Field R) (remaining : List (Field R))

/-- A point in a build: the arena and the tasks, the next one first. -/
structure BuildPoint (R : Type) where
  arena : Arena R
  tasks : List (BuildTask R)

/-- What is reported of a build: that the fields of a node are about to be converted, and that
one of them is. -/
inductive BuildEvent (R : Type) where
  | opened (index : Nat)
  | converted (index : Nat) (field : Field R)

/-- The node that an event is about. -/
def BuildEvent.index : BuildEvent R → Nat
  | .opened index => index
  | .converted index _ => index

@[simp]
theorem BuildEvent.index_opened (index : Nat) :
    (.opened index : BuildEvent R).index = index := rfl

@[simp]
theorem BuildEvent.index_converted (index : Nat) (field : Field R) :
    (BuildEvent.converted index field).index = index := rfl

/-- The object of a node that is allocated already. -/
def Arena.lookUp (index : Nat) (arena : Arena R) : Except GraphError (Nat × Arena R) :=
  match arena.objectId? index with
  | some id => .ok (id, arena)
  | none => .error (.schema (.refused []))

/-- One step of a task before later ones.  A node is opened with its object allocated; then each
of its fields has the node that it refers to built, before the field itself is converted. -/
def BuildTask.step (list : NodeList R) (arena : Arena R) (later : List (BuildTask R)) :
    BuildTask R → Except GraphError (List (BuildEvent R) × BuildPoint R)
  | .build index =>
      match arena.objectId? index, list.nodes[index]? with
      | some _, _ => .ok ([], ⟨arena, later⟩)
      | none, none => .error (.schema (.refused []))
      | none, some node => do
          let arguments ← list.argumentConfig [] node.arguments
          return ([.opened index], ⟨arena.allocate index node arguments,
            .convert { index, id := arena.objects.length } node.fields :: later⟩)
  | .convert current [] =>
      .ok ([], ⟨arena.finish current.index current.id current.converted, later⟩)
  | .convert current (field :: remaining) =>
      .ok ([], ⟨arena, (list.reference? field).toList.map .build ++
        .attach current field remaining :: later⟩)
  | .attach current field remaining => do
      let (built, arena) ← Arena.convertField list Arena.lookUp field arena
      return ([.converted current.index field],
        ⟨arena, .convert (current.add [built]) remaining :: later⟩)

section Steps

variable {list : NodeList R} {arena : Arena R} {later : List (BuildTask R)}

theorem step_build_of_placed {index id : Nat} (placed : arena.objectId? index = some id) :
    (BuildTask.build index).step list arena later = .ok ([], ⟨arena, later⟩) := by
  rw [BuildTask.step, placed]

theorem step_build_of_fresh {index : Nat} {node : Node R} {arguments : List ArgumentDefinition}
    (fresh : arena.Fresh list index node)
    (config : list.argumentConfig [] node.arguments = .ok arguments) :
    (BuildTask.build index).step list arena later =
      .ok ([.opened index], ⟨arena.allocate index node arguments,
        .convert { index, id := arena.objects.length } node.fields :: later⟩) := by
  rw [BuildTask.step, fresh.unplaced, fresh.found]
  dsimp only
  rw [config]
  rfl

theorem step_build_of_refused {index : Nat} {node : Node R} {fault : GraphError}
    (fresh : arena.Fresh list index node)
    (refused : list.argumentConfig [] node.arguments = .error fault) :
    (BuildTask.build index).step list arena later = .error fault := by
  rw [BuildTask.step, fresh.unplaced, fresh.found]
  dsimp only
  rw [refused]
  rfl

theorem step_attach_of_converted {current : OpenNode R} {field : Field R}
    {remaining : List (Field R)} {built : SchemaField R} {after : Arena R}
    (converted : Arena.convertField list Arena.lookUp field arena = .ok (built, after)) :
    (BuildTask.attach current field remaining).step list arena later =
      .ok ([.converted current.index field],
        ⟨after, .convert (current.add [built]) remaining :: later⟩) := by
  rw [BuildTask.step, converted]
  rfl

theorem step_attach_of_failed {current : OpenNode R} {field : Field R}
    {remaining : List (Field R)} {fault : GraphError}
    (failed : Arena.convertField list Arena.lookUp field arena = .error fault) :
    (BuildTask.attach current field remaining).step list arena later = .error fault := by
  rw [BuildTask.step, failed]
  rfl

end Steps

namespace BuildPoint

/-- The start of a build of all nodes, one after another. -/
def start (list : NodeList R) : BuildPoint R :=
  { arena := .start list, tasks := (List.range list.nodes.length).map .build }

/-- A call that builds one node and then ends. -/
def call (index : Nat) (arena : Arena R) : BuildPoint R := { arena, tasks := [.build index] }

/-- One step of a build, unless nothing is left to do. -/
def step? (list : NodeList R) (point : BuildPoint R) :
    Option (Except GraphError (List (BuildEvent R) × BuildPoint R)) :=
  match point.tasks with
  | [] => none
  | task :: later => some (task.step list point.arena later)

/-- No step leads on from a point, whether nothing is left to do or the next step fails. -/
def Stuck (list : NodeList R) (point : BuildPoint R) : Prop :=
  ∀ events next, point.step? list ≠ some (.ok (events, next))

theorem stuck_of_finished (list : NodeList R) (arena : Arena R) :
    Stuck list { arena, tasks := [] } :=
  nofun

theorem stuck_of_failed {list : NodeList R} {point : BuildPoint R} {fault : GraphError}
    (failed : point.step? list = some (.error fault)) : point.Stuck list := by
  intro events next
  rw [failed]
  exact nofun

/-- All sequences of steps from a point are finite. -/
def Terminates (list : NodeList R) : BuildPoint R → Prop :=
  Acc fun next point => ∃ events, point.step? list = some (.ok (events, next))

end BuildPoint

/-- Some steps of a build, with the events on the way. -/
inductive BuildRun (list : NodeList R) :
    BuildPoint R → List (BuildEvent R) → BuildPoint R → Prop
  | refl (point : BuildPoint R) : BuildRun list point [] point
  | step {point next last : BuildPoint R} {events log : List (BuildEvent R)}
      (first : point.step? list = some (.ok (events, next))) (rest : BuildRun list next log last) :
      BuildRun list point (events ++ log) last

theorem BuildRun.single {list : NodeList R} {point next : BuildPoint R}
    {events : List (BuildEvent R)} (first : point.step? list = some (.ok (events, next))) :
    BuildRun list point events next := by
  simpa using BuildRun.step first (.refl next)

theorem BuildRun.trans {list : NodeList R} {first second third : BuildPoint R}
    {log more : List (BuildEvent R)} (earlier : BuildRun list first log second)
    (later : BuildRun list second more third) : BuildRun list first (log ++ more) third := by
  induction earlier with
  | refl => exact later
  | step first _ ih =>
      rw [List.append_assoc]
      exact .step first (ih later)

/-- A step leads to one point only, so a run that cannot go on is all that can happen. -/
theorem BuildRun.terminates {list : NodeList R} {point last : BuildPoint R}
    {log : List (BuildEvent R)} (run : BuildRun list point log last) (stuck : last.Stuck list) :
    point.Terminates list := by
  induction run with
  | refl point =>
      constructor
      rintro next ⟨events, stepped⟩
      exact absurd stepped (stuck events next)
  | @step point next last events log first _ ih =>
      constructor
      rintro other ⟨otherEvents, stepped⟩
      obtain ⟨_, rfl⟩ : events = otherEvents ∧ next = other := by simpa [first] using stepped
      exact ih stuck

/-- Two runs from one point that cannot go on are the same. -/
theorem BuildRun.unique {list : NodeList R} {point first second : BuildPoint R}
    {log more : List (BuildEvent R)} (run : BuildRun list point log first)
    (other : BuildRun list point more second) (stuck : first.Stuck list)
    (otherStuck : second.Stuck list) : log = more ∧ first = second := by
  induction run generalizing more with
  | refl point =>
      cases other with
      | refl => exact ⟨rfl, rfl⟩
      | step stepped _ => exact absurd stepped (stuck _ _)
  | @step point next last events log stepped _ ih =>
      cases other with
      | refl => exact absurd stepped (otherStuck _ _)
      | @step _ otherNext _ otherEvents _ otherStepped later =>
          obtain ⟨rfl, rfl⟩ : events = otherEvents ∧ next = otherNext := by
            simpa [stepped] using otherStepped
          obtain ⟨rfl, rfl⟩ := ih later stuck
          exact ⟨rfl, rfl⟩

/-! ### Sound points -/

namespace Arena

/-- The objects of nodes in progress are not complete. -/
def Unfinished (arena : Arena R) : Prop :=
  ∀ (index id : Nat), arena.states[index]? = some (.allocated id) →
    ∃ object, arena.objects[id]? = some object ∧ object.complete = false

theorem unfinished_start (list : NodeList R) : (start list).Unfinished := by
  intro index id pending
  simp [start, List.getElem?_replicate] at pending

theorem unfinished_allocate {list : NodeList R} {arena : Arena R} {index : Nat} {node : Node R}
    (consistent : Consistent list arena) (fresh : Fresh list arena index node)
    (arguments : List ArgumentDefinition) (unfinished : arena.Unfinished) :
    (arena.allocate index node arguments).Unfinished := by
  intro other id pending
  by_cases same : index = other
  · subst same
    have bound := (List.getElem?_eq_some_iff.mp (fresh.states_eq consistent)).1
    obtain rfl : arena.objects.length = id := by simpa [allocate, bound] using pending
    exact ⟨_, List.getElem?_concat_length, rfl⟩
  · obtain ⟨object, found, incomplete⟩ :=
      unfinished other id (by simpa [allocate, same] using pending)
    have bound := (List.getElem?_eq_some_iff.mp found).1
    exact ⟨object, by rw [allocate, List.getElem?_append_left bound, found], incomplete⟩

theorem unfinished_finish {list : NodeList R} {arena : Arena R} {index id : Nat}
    (consistent : Consistent list arena) (placed : arena.objectId? index = some id)
    (fields : List (SchemaField R)) (unfinished : arena.Unfinished) :
    (arena.finish index id fields).Unfinished := by
  intro other position pending
  have different : index ≠ other := by
    rintro rfl
    have bound : index < arena.states.length := by
      simpa [finish] using (List.getElem?_eq_some_iff.mp pending).1
    simp [finish, bound] at pending
  have pendingBefore : arena.states[other]? = some (.allocated position) := by
    simpa [finish, different] using pending
  obtain ⟨object, found, incomplete⟩ := unfinished other position pendingBefore
  have apart : id ≠ position := by
    rintro rfl
    have otherPlaced := (objectId?_eq_some_iff arena other id).mpr (.inl pendingBefore)
    exact different (consistent.injective index other id placed otherPlaced)
  exact ⟨object, by simpa [finish, apart] using found, incomplete⟩

/-- A field whose node is built is converted on the arena as it is. -/
theorem convertField_lookUp {list : NodeList R} {arena after : Arena R} {field : Field R}
    {built : SchemaField R} (consistent : Consistent list arena)
    (converted : convertField list lookUp field arena = .ok (built, after)) :
    after = arena ∧ FieldBuilt list (arena.position? list) field built := by
  unfold convertField at converted
  cases declared : field.fieldType with
  | scalar scalar =>
      simp only [declared, Except.ok.injEq, Prod.mk.injEq] at converted
      obtain ⟨rfl, rfl⟩ := converted
      exact ⟨rfl, .scalar field scalar declared⟩
  | node tag =>
      cases indexed : list.indexOf? tag with
      | none => simp [declared, indexed] at converted
      | some index =>
          cases placed : arena.objectId? index with
          | none => simp [declared, indexed, lookUp, placed, bind, Except.bind] at converted
          | some id =>
              obtain ⟨target, found, carries⟩ :=
                (NodeList.indexOf?_eq_some_iff consistent.indexed).mp indexed
              obtain ⟨output, outputEq, overridden⟩ :=
                fieldOutput_reference indexed found carries placed field.asList
              simp only [declared, indexed, lookUp, placed, outputEq, bind, Except.bind, pure,
                Except.pure, Except.ok.injEq, Prod.mk.injEq] at converted
              obtain ⟨rfl, rfl⟩ := converted
              subst carries
              rw [overridden]
              exact ⟨rfl, .reference field target id _ declared (List.mem_of_getElem? found)
                (by simpa [position?, indexed] using placed)
                (argumentsOf_defined consistent found placed)⟩

end Arena

/-- A node in progress has its object, and its first fields are those that are converted. -/
structure OpenNode.Fits (list : NodeList R) (arena : Arena R) (current : OpenNode R)
    (remaining : List (Field R)) : Prop where
  placed : arena.objectId? current.index = some current.id
  fields : ∃ node front, list.nodes[current.index]? = some node ∧
    node.fields = front ++ remaining ∧
    List.Forall₂ (FieldBuilt list (arena.position? list)) front current.converted

/-- A task that makes sense on an arena. -/
inductive BuildTask.Fits (list : NodeList R) (arena : Arena R) : BuildTask R → Prop
  | build {index : Nat} (registered : index < list.nodes.length) :
      BuildTask.Fits list arena (.build index)
  | convert {current : OpenNode R} {remaining : List (Field R)}
      (fits : current.Fits list arena remaining) :
      BuildTask.Fits list arena (.convert current remaining)
  | attach {current : OpenNode R} {field : Field R} {remaining : List (Field R)}
      (fits : current.Fits list arena (field :: remaining)) :
      BuildTask.Fits list arena (.attach current field remaining)

/-- A consistent arena with tasks that make sense on it. -/
structure BuildPoint.Sound (list : NodeList R) (point : BuildPoint R) : Prop where
  consistent : point.arena.Consistent list
  unfinished : point.arena.Unfinished
  tasks : ∀ task ∈ point.tasks, task.Fits list point.arena

theorem OpenNode.Fits.mono {list : NodeList R} {before after : Arena R} {current : OpenNode R}
    {remaining : List (Field R)}
    (kept : ∀ index id, before.objectId? index = some id → after.objectId? index = some id)
    (fits : current.Fits list before remaining) : current.Fits list after remaining := by
  obtain ⟨node, front, found, split, built⟩ := fits.fields
  exact ⟨kept _ _ fits.placed, node, front, found, split, built.imp fun _ _ fieldBuilt =>
    fieldBuilt.mono fun tag id => Arena.position?_mono kept tag id⟩

theorem BuildTask.Fits.mono {list : NodeList R} {before after : Arena R} {task : BuildTask R}
    (kept : ∀ index id, before.objectId? index = some id → after.objectId? index = some id)
    (fits : task.Fits list before) : task.Fits list after := by
  cases fits with
  | build registered => exact .build registered
  | convert fits => exact .convert (fits.mono kept)
  | attach fits => exact .attach (fits.mono kept)

section Soundness

variable {list : NodeList R} {arena : Arena R} {later : List (BuildTask R)}

theorem sound_build {index : Nat} (sound : BuildPoint.Sound list ⟨arena, .build index :: later⟩)
    {events : List (BuildEvent R)} {next : BuildPoint R}
    (stepped : (BuildTask.build index).step list arena later = .ok (events, next)) :
    next.Sound list := by
  have fitLater : ∀ task ∈ later, task.Fits list arena :=
    fun task member => sound.tasks task (List.mem_cons_of_mem _ member)
  cases placed : arena.objectId? index with
  | some id =>
      rw [step_build_of_placed placed] at stepped
      obtain ⟨_, rfl⟩ := Prod.mk.inj (Except.ok.inj stepped)
      exact ⟨sound.consistent, sound.unfinished, fitLater⟩
  | none =>
      cases sound.tasks _ List.mem_cons_self with
      | build registered =>
          have fresh : Arena.Fresh list arena index _ :=
            ⟨List.getElem?_eq_getElem registered, placed⟩
          rcases list.argumentConfig_outcome list.nodes[index].arguments with
            ⟨arguments, config, defined⟩ | ⟨kind, _, _, refused⟩
          · rw [step_build_of_fresh fresh config] at stepped
            obtain ⟨_, rfl⟩ := Prod.mk.inj (Except.ok.inj stepped)
            have positions := Arena.objectId?_allocate arguments sound.consistent fresh
            refine ⟨Arena.consistent_allocate sound.consistent fresh defined,
              Arena.unfinished_allocate sound.consistent fresh arguments sound.unfinished, ?_⟩
            intro task member
            rcases List.mem_cons.mp member with rfl | member
            · exact .convert ⟨by rw [positions, if_pos rfl], _, [], fresh.found, rfl, .nil⟩
            · refine (fitLater task member).mono fun other id known => ?_
              rw [positions, if_neg]
              · exact known
              · rintro rfl
                simp [placed] at known
          · rw [step_build_of_refused fresh refused] at stepped
            cases stepped

theorem sound_finish {current : OpenNode R}
    (sound : BuildPoint.Sound list ⟨arena, .convert current [] :: later⟩) :
    BuildPoint.Sound list ⟨arena.finish current.index current.id current.converted, later⟩ := by
  cases sound.tasks _ List.mem_cons_self with
  | convert fits =>
      obtain ⟨node, front, found, split, built⟩ := fits.fields
      rw [List.append_nil] at split
      refine ⟨Arena.consistent_finish sound.consistent found fits.placed (split ▸ built),
        Arena.unfinished_finish sound.consistent fits.placed _ sound.unfinished, ?_⟩
      intro task member
      refine (sound.tasks task (List.mem_cons_of_mem _ member)).mono fun other id known => ?_
      rw [Arena.objectId?_finish _ fits.placed]
      exact known

theorem reference?_lt (indexed : list.Indexed) {field : Field R} {target : Nat}
    (refers : list.reference? field = some target) : target < list.nodes.length := by
  obtain ⟨tag, _, positioned⟩ := Option.bind_eq_some_iff.mp refers
  obtain ⟨node, found, _⟩ := (NodeList.indexOf?_eq_some_iff indexed).mp positioned
  exact (List.getElem?_eq_some_iff.mp found).1

theorem sound_visit {current : OpenNode R} {field : Field R} {remaining : List (Field R)}
    (sound : BuildPoint.Sound list ⟨arena, .convert current (field :: remaining) :: later⟩) :
    BuildPoint.Sound list ⟨arena, (list.reference? field).toList.map .build ++
      .attach current field remaining :: later⟩ := by
  refine ⟨sound.consistent, sound.unfinished, ?_⟩
  intro task member
  rcases List.mem_append.mp member with built | member
  · obtain ⟨target, refers, rfl⟩ := List.mem_map.mp built
    exact .build (reference?_lt sound.consistent.indexed (Option.mem_toList.mp refers))
  · rcases List.mem_cons.mp member with rfl | member
    · cases sound.tasks _ List.mem_cons_self with
      | convert fits => exact .attach fits
    · exact sound.tasks task (List.mem_cons_of_mem _ member)

theorem sound_attach {current : OpenNode R} {field : Field R} {remaining : List (Field R)}
    (sound : BuildPoint.Sound list ⟨arena, .attach current field remaining :: later⟩)
    {built : SchemaField R} {after : Arena R}
    (converted : Arena.convertField list Arena.lookUp field arena = .ok (built, after)) :
    BuildPoint.Sound list ⟨after, .convert (current.add [built]) remaining :: later⟩ := by
  obtain ⟨rfl, fieldBuilt⟩ := Arena.convertField_lookUp sound.consistent converted
  refine ⟨sound.consistent, sound.unfinished, ?_⟩
  intro task member
  rcases List.mem_cons.mp member with rfl | member
  · cases sound.tasks _ List.mem_cons_self with
    | attach fits =>
        obtain ⟨node, front, found, split, allBuilt⟩ := fits.fields
        exact .convert ⟨fits.placed, node, front ++ [field], found, by simpa using split,
          List.rel_append allBuilt (.cons fieldBuilt .nil)⟩
  · exact sound.tasks task (List.mem_cons_of_mem _ member)

/-- Every step of a build leads from a sound point to a sound one. -/
theorem BuildPoint.Sound.step {point next : BuildPoint R} {events : List (BuildEvent R)}
    (sound : point.Sound list) (stepped : point.step? list = some (.ok (events, next))) :
    next.Sound list := by
  obtain ⟨arena, tasks⟩ := point
  cases tasks with
  | nil => simp [step?] at stepped
  | cons task later =>
      have taskStepped : task.step list arena later = .ok (events, next) :=
        Option.some.inj stepped
      cases task with
      | build index => exact sound_build sound taskStepped
      | convert current remaining =>
          cases remaining with
          | nil =>
              obtain ⟨_, rfl⟩ := Prod.mk.inj (Except.ok.inj taskStepped)
              exact sound_finish sound
          | cons field remaining =>
              obtain ⟨_, rfl⟩ := Prod.mk.inj (Except.ok.inj taskStepped)
              exact sound_visit sound
      | attach current field remaining =>
          cases converted : Arena.convertField list Arena.lookUp field arena with
          | error fault =>
              rw [step_attach_of_failed converted] at taskStepped
              cases taskStepped
          | ok pair =>
              rw [step_attach_of_converted converted] at taskStepped
              obtain ⟨_, rfl⟩ := Prod.mk.inj (Except.ok.inj taskStepped)
              exact sound_attach sound converted

theorem BuildRun.sound {point last : BuildPoint R} {log : List (BuildEvent R)}
    (run : BuildRun list point log last) (sound : point.Sound list) : last.Sound list := by
  induction run with
  | refl => exact sound
  | step first _ ih => exact ih (sound.step first)

end Soundness

theorem BuildPoint.sound_start {list : NodeList R} (indexed : list.Indexed) :
    (BuildPoint.start list).Sound list := by
  refine ⟨Arena.consistent_start indexed, Arena.unfinished_start list, ?_⟩
  intro task member
  obtain ⟨index, registered, rfl⟩ := List.mem_map.mp member
  exact .build (List.mem_range.mp registered)

end NodeGraph
