import NodeGraph.Proofs.Schema.Arena

/-!
# Building nodes one after another

Every step of a build either succeeds with an arena that has grown or fails over an
argument kind or a type tag that a node names and nobody registered.  The statements are
proved for one field, for the fields of a node, for a node by induction on the number of
nodes that still have no object, and for all root fields of a schema.
-/

namespace NodeGraph

variable {R : Type}

/-- The faults over names that nobody registered. -/
inductive Unresolved (list : NodeList R) : GraphError → Prop
  | kind (node : Node R) (kind : String) (registered : node ∈ list.nodes)
      (named : kind ∈ node.arguments) (missing : list.arguments.contains kind = false) :
      Unresolved list (.unknownArgument kind)
  | tag (node : Node R) (field : Field R) (tag : String) (registered : node ∈ list.nodes)
      (declares : field ∈ node.fields) (refers : field.fieldType = .node tag)
      (missing : ∀ target ∈ list.nodes, target.nodeType ≠ tag) :
      Unresolved list (.unsupportedFieldType tag)

namespace NodeList

/-- The definitions of some kinds after those already defined, or the first kind that is
not registered. -/
theorem argumentConfig_append (list : NodeList R) (defined : List ArgumentDefinition)
    (kinds : List String) :
    (∃ added, list.argumentConfig defined kinds = .ok (defined ++ added) ∧
      added.map ArgumentDefinition.name =
        (kinds.filter fun kind => !(defined.map ArgumentDefinition.name).contains kind).eraseDups ∧
      ∀ definition ∈ added, ∃ fresh, list.arguments.fresh? definition.name = some fresh ∧
        definition.typeName = fresh.scalarName) ∨
    ∃ kind ∈ kinds, list.arguments.contains kind = false ∧
      list.argumentConfig defined kinds = .error (.unknownArgument kind) := by
  induction kinds generalizing defined with
  | nil => exact .inl ⟨[], by simp [argumentConfig], by simp, by simp⟩
  | cons kind rest ih =>
      by_cases seen : kind ∈ defined.map ArgumentDefinition.name
      · have any : (defined.any fun definition => definition.name == kind) = true := by
          simpa using seen
        have step : list.argumentConfig defined (kind :: rest) =
            list.argumentConfig defined rest := by
          rw [argumentConfig, if_pos any]
        rw [step]
        rcases ih defined with ⟨added, config, names, typed⟩ | ⟨missing, member, absent, config⟩
        · refine .inl ⟨added, config, ?_, typed⟩
          rw [names, List.filter_cons_of_neg (by simpa using seen)]
        · exact .inr ⟨missing, List.mem_cons_of_mem kind member, absent, config⟩
      · have any : ¬ (defined.any fun definition => definition.name == kind) = true := by
          simpa using seen
        cases found : list.arguments.fresh? kind with
        | none =>
            refine .inr ⟨kind, List.mem_cons_self, ?_, ?_⟩
            · simpa [ArgumentRegistry.contains, ArgumentRegistry.fresh?] using found
            · rw [argumentConfig, if_neg any, found]
        | some fresh =>
            have step : list.argumentConfig defined (kind :: rest) =
                list.argumentConfig (defined ++ [⟨kind, fresh.scalarName⟩]) rest := by
              rw [argumentConfig, if_neg any, found]
            rw [step]
            rcases ih (defined ++ [⟨kind, fresh.scalarName⟩]) with
              ⟨added, config, names, typed⟩ | ⟨missing, member, absent, config⟩
            · refine .inl ⟨⟨kind, fresh.scalarName⟩ :: added, by simpa using config, ?_, ?_⟩
              · rw [List.map_cons, names, List.filter_cons_of_pos (by simpa using seen),
                  List.eraseDups_cons, List.filter_filter]
                congr 3
                funext other
                by_cases same : other = kind <;> simp [same]
              · intro definition member
                rcases List.mem_cons.mp member with rfl | member
                · exact ⟨fresh, found, rfl⟩
                · exact typed definition member
            · exact .inr ⟨missing, List.mem_cons_of_mem kind member, absent, config⟩

theorem argumentConfig_outcome (list : NodeList R) (kinds : List String) :
    (∃ definitions, list.argumentConfig [] kinds = .ok definitions ∧
      ArgumentsDefined list.arguments kinds definitions) ∨
    ∃ kind ∈ kinds, list.arguments.contains kind = false ∧
      list.argumentConfig [] kinds = .error (.unknownArgument kind) := by
  rcases argumentConfig_append list [] kinds with ⟨added, config, names, typed⟩ | missing
  · exact .inl ⟨added, by simpa using config, by simpa using names, typed⟩
  · exact .inr missing

end NodeList

namespace Arena

/-- A step of a build succeeds with an arena that has grown and a value for which a
statement holds, or it fails over an unregistered name. -/
def Advances (list : NodeList R) (before : Arena R) {α : Type}
    (result : Except GraphError (α × Arena R)) (holds : α → Arena R → Prop) : Prop :=
  match result with
  | .ok (value, after) => Grows list before after ∧ holds value after
  | .error fault => Unresolved list fault

theorem Advances.ok {list : NodeList R} {before after : Arena R} {α : Type} {value : α}
    {holds : α → Arena R → Prop} (grows : Grows list before after) (held : holds value after) :
    Advances list before (.ok (value, after)) holds :=
  ⟨grows, held⟩

theorem Advances.error {list : NodeList R} {before : Arena R} {α : Type} {fault : GraphError}
    {holds : α → Arena R → Prop} (unresolved : Unresolved list fault) :
    Advances list before (.error fault) holds :=
  unresolved

theorem Advances.of_ok {list : NodeList R} {before after : Arena R} {α : Type} {value : α}
    {result : Except GraphError (α × Arena R)} {holds : α → Arena R → Prop}
    (advances : Advances list before result holds) (ended : result = .ok (value, after)) :
    Grows list before after ∧ holds value after := by
  subst ended
  exact advances

theorem Advances.bind {list : NodeList R} {before : Arena R} {α β : Type}
    {result : Except GraphError (α × Arena R)} {holds : α → Arena R → Prop}
    {next : α × Arena R → Except GraphError (β × Arena R)} {holdsNext : β → Arena R → Prop}
    (first : Advances list before result holds)
    (second : ∀ value after, Grows list before after → holds value after →
      Advances list after (next (value, after)) holdsNext) :
    Advances list before (result >>= next) holdsNext := by
  cases result with
  | error fault => exact first
  | ok pair =>
      obtain ⟨value, after⟩ := pair
      obtain ⟨grows, held⟩ := first
      have later := second value after grows held
      change Advances list before (next (value, after)) holdsNext
      generalize next (value, after) = last at later ⊢
      cases last with
      | error fault => exact later
      | ok pair => exact ⟨grows.trans later.1, later.2⟩

/-- What the build of nodes does on all arenas with few enough nodes left to build. -/
def BuildsNodes (list : NodeList R) (depth : Nat)
    (build : Nat → Arena R → Except GraphError (Nat × Arena R)) : Prop :=
  ∀ index arena, index < list.nodes.length → Consistent list arena → arena.unbuilt ≤ depth →
    Advances list arena (build index arena) fun id after => after.objectId? index = some id

theorem fieldOutput_reference {list : NodeList R} {arena : Arena R} {tag : String}
    {index id : Nat} {target : Node R} (indexed : list.indexOf? tag = some index)
    (found : list.nodes[index]? = some target) (carries : target.nodeType = tag)
    (placed : arena.objectId? index = some id) (asList : Option Bool) :
    ∃ output, arena.fieldOutput list tag = .ok output ∧
      overrideList output asList = referenceOutput target id asList := by
  subst carries
  unfold fieldOutput referenceOutput
  cases ScalarType.ofTag? target.nodeType with
  | some scalar =>
      refine ⟨.scalar scalar, rfl, ?_⟩
      cases asList <;> rfl
  | none =>
      refine ⟨.forNode id target.isList, by simp [indexed, placed, found], ?_⟩
      cases asList <;> simp [overrideList]

section Fields

variable {list : NodeList R} {depth : Nat}
  {build : Nat → Arena R → Except GraphError (Nat × Arena R)}

/-- A converted field is built from its declaration. -/
theorem convertField_advances (builds : BuildsNodes list depth build) {node : Node R}
    (registered : node ∈ list.nodes) {field : Field R} (declares : field ∈ node.fields)
    {arena : Arena R} (consistent : Consistent list arena) (enough : arena.unbuilt ≤ depth) :
    Advances list arena (convertField list build field arena)
      fun built after => FieldBuilt list (after.position? list) field built := by
  unfold convertField
  cases declared : field.fieldType with
  | scalar scalar => exact .ok (.refl consistent) (.scalar field scalar declared)
  | node tag =>
      cases indexed : list.indexOf? tag with
      | none =>
          simp only [indexed]
          exact .error (.tag node field tag registered declares declared
            ((NodeList.indexOf?_eq_none_iff consistent.indexed).mp indexed))
      | some index =>
          simp only [indexed]
          obtain ⟨target, found, carries⟩ :=
            (NodeList.indexOf?_eq_some_iff consistent.indexed).mp indexed
          have bound := (List.getElem?_eq_some_iff.mp found).1
          refine (builds index arena bound consistent enough).bind ?_
          intro id after grows placed
          obtain ⟨output, outputEq, overridden⟩ :=
            fieldOutput_reference indexed found carries placed field.asList
          simp only [outputEq]
          refine .ok (.refl grows.consistent) ?_
          rw [overridden]
          subst carries
          exact .reference field target id _ declared (List.mem_of_getElem? found)
            (by simpa [position?, indexed] using placed)
            (argumentsOf_defined grows.consistent found placed)

theorem convertFields_advances (builds : BuildsNodes list depth build) {node : Node R}
    (registered : node ∈ list.nodes) {fields : List (Field R)}
    (declares : ∀ field ∈ fields, field ∈ node.fields) {arena : Arena R}
    (consistent : Consistent list arena) (enough : arena.unbuilt ≤ depth) :
    Advances list arena (convertFields list build fields arena)
      fun built after => List.Forall₂ (FieldBuilt list (after.position? list)) fields built := by
  induction fields generalizing arena with
  | nil => exact .ok (.refl consistent) .nil
  | cons field rest ih =>
      rw [convertFields]
      refine (convertField_advances builds registered (declares field List.mem_cons_self)
        consistent enough).bind ?_
      intro converted middle grows fieldBuilt
      refine (ih (fun other member => declares other (List.mem_cons_of_mem field member))
        grows.consistent (Nat.le_trans grows.unbuilt_le enough)).bind ?_
      intro others after later othersBuilt
      refine .ok (.refl later.consistent) (.cons ?_ othersBuilt)
      exact fieldBuilt.mono fun tag id => position?_mono later.kept tag id

end Fields

/-- Allocating a node, converting its fields and finishing it is one step. -/
theorem grows_finish {list : NodeList R} {before middle : Arena R} {index : Nat}
    {node : Node R} {arguments : List ArgumentDefinition} {fields : List (SchemaField R)}
    (consistent : Consistent list before) (fresh : Fresh list before index node)
    (grows : Grows list (before.allocate index node arguments) middle)
    (built : List.Forall₂ (FieldBuilt list (middle.position? list)) node.fields fields) :
    Grows list before (middle.finish index before.objects.length fields) ∧
      (middle.finish index before.objects.length fields).objectId? index =
        some before.objects.length := by
  have allocated := objectId?_allocate arguments consistent fresh
  have placed : middle.objectId? index = some before.objects.length :=
    grows.kept index _ (by rw [allocated, if_pos rfl])
  have samePositions := objectId?_finish fields placed
  refine ⟨⟨consistent_finish grows.consistent fresh.found placed built, ?_, ?_, ?_⟩, ?_⟩
  · intro other id known
    rw [samePositions]
    apply grows.kept
    rw [allocated, if_neg]
    · exact known
    · intro same
      simp [same, fresh.unplaced] at known
  · intro other id pending
    by_cases same : other = index
    · subst same
      have bound : other < middle.states.length := by
        rw [grows.consistent.length]
        exact (List.getElem?_eq_some_iff.mp fresh.found).1
      simp [finish, bound] at pending
    · have different : index ≠ other := fun equal => same equal.symm
      have pendingBefore := grows.pending other id (by simpa [finish, different] using pending)
      simpa [allocate, different] using pendingBefore
  · have finished := unbuilt_finish_le fields placed
    have counted := unbuilt_allocate arguments consistent fresh
    have fewer := grows.unbuilt_le
    omega
  · rw [samePositions, placed]

/-- A node is built with as much depth as there are nodes without an object: every nested
build has one node less to allocate, so the depth never runs out. -/
theorem buildNode_advances (list : NodeList R) (depth : Nat) :
    BuildsNodes list depth (buildNode list depth) := by
  -- the depth never runs out: a node takes its place before its fields are converted, so each
  -- level leaves one node fewer to build
  induction depth with
  | zero =>
      intro index arena bound consistent enough
      unfold buildNode
      cases placed : arena.objectId? index with
      | some id => exact .ok (.refl consistent) placed
      | none =>
          have fresh : Fresh list arena index _ := ⟨List.getElem?_eq_getElem bound, placed⟩
          have counted := unbuilt_allocate [] consistent fresh
          omega
  | succ depth ih =>
      intro index arena bound consistent enough
      unfold buildNode
      cases placed : arena.objectId? index with
      | some id => exact .ok (.refl consistent) placed
      | none =>
          have fresh : Fresh list arena index _ := ⟨List.getElem?_eq_getElem bound, placed⟩
          have registered : list.nodes[index] ∈ list.nodes := List.getElem_mem bound
          simp only [fresh.found]
          rcases list.argumentConfig_outcome list.nodes[index].arguments with
            ⟨arguments, config, defined⟩ | ⟨kind, named, missing, config⟩
          · rw [config]
            have counted := unbuilt_allocate arguments consistent fresh
            have fields := convertFields_advances ih registered (fun _ member => member)
              (consistent_allocate consistent fresh defined) (by omega)
            change Advances list arena
              (convertFields list (buildNode list depth) list.nodes[index].fields
                (arena.allocate index list.nodes[index] arguments) >>= _) _
            generalize convertFields list (buildNode list depth) list.nodes[index].fields
              (arena.allocate index list.nodes[index] arguments) = converted at fields ⊢
            cases converted with
            | error fault => exact fields
            | ok pair => exact grows_finish consistent fresh fields.1 fields.2
          · rw [config]
            exact .error (.kind list.nodes[index] kind registered named missing)

end Arena

end NodeGraph
