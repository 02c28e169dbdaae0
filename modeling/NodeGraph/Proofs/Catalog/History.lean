import NodeGraph.Proofs.Catalog.Refusal

/-!
# The history of a catalog

Registrations and builds on one catalog are told as a list of events.  Whatever the order of
calls, successful and failing ones alike, the list of nodes and both indexes are those that the
registrations that succeeded lead to, and a schema is given out again from the build that made it
until the next registration that succeeds.
-/

namespace NodeGraph

variable {R : Type}

/-- A call on a catalog. -/
inductive CatalogCall (R : Type) where
  | register (node : Node R)
  | build

/-- What a call came to. -/
inductive CatalogEvent (R : Type) where
  | registered (node : Node R)
  | refused (node : Node R) (fault : GraphError)
  | built (shared : SharedSchema R)
  | failed (fault : GraphError)

namespace CatalogEvent

def introduced? : CatalogEvent R → Option (Node R)
  | .registered node => some node
  | _ => none

def ofBuild : Except GraphError (SharedSchema R) → CatalogEvent R
  | .ok shared => .built shared
  | .error fault => .failed fault

end CatalogEvent

namespace Catalog

def perform (catalog : Catalog R) : CatalogCall R → CatalogEvent R × Catalog R
  | .register node =>
      match catalog.register node with
      | (.ok _, next) => (.registered node, next)
      | (.error fault, next) => (.refused node fault, next)
  | .build => (.ofBuild catalog.build.1, catalog.build.2)

/-- The events of calls that are made one after another, and the catalog after them. -/
def run (catalog : Catalog R) : List (CatalogCall R) → List (CatalogEvent R) × Catalog R
  | [] => ([], catalog)
  | call :: rest =>
      let performed := catalog.perform call
      let later := performed.2.run rest
      (performed.1 :: later.1, later.2)

/-- The nodes of the registrations that succeeded, in order. -/
def introduced (events : List (CatalogEvent R)) : List (Node R) :=
  events.filterMap CatalogEvent.introduced?

theorem introduced_cons (event : CatalogEvent R) (events : List (CatalogEvent R)) :
    introduced (event :: events) = event.introduced?.toList ++ introduced events := by
  simp only [introduced, List.filterMap_cons]
  cases event.introduced? <;> rfl

theorem mem_introduced_iff {events : List (CatalogEvent R)} {node : Node R} :
    node ∈ introduced events ↔ .registered node ∈ events := by
  have introducedIff : ∀ event : CatalogEvent R,
      event.introduced? = some node ↔ event = .registered node := by
    intro event
    cases event <;> simp [CatalogEvent.introduced?]
  simp [introduced, introducedIff]

/-- The catalog without any trace of its builds. -/
def bare (catalog : Catalog R) : Catalog R := { catalog with built := none, made := 0 }

/-- Everything that a call can do.  Refusals and failures leave the catalog as it was. -/
inductive Performs (catalog : Catalog R) :
    CatalogCall R → CatalogEvent R → Catalog R → Prop
  | registered (node : Node R) (accepted : catalog.register node = (.ok (), catalog.add node)) :
      Performs catalog (.register node) (.registered node) (catalog.add node)
  | refused (node : Node R) (fault : GraphError) :
      Performs catalog (.register node) (.refused node fault) catalog
  | kept (shared : SharedSchema R) (kept : catalog.built = some shared) :
      Performs catalog .build (.built shared) catalog
  | made (schema : Schema R) (unkept : catalog.built = none)
      (fresh : catalog.freshSchema = .ok schema) :
      Performs catalog .build (.built ⟨catalog.made, schema⟩)
        { catalog with built := some ⟨catalog.made, schema⟩, made := catalog.made + 1 }
  | failed (fault : GraphError) (unkept : catalog.built = none) :
      Performs catalog .build (.failed fault) catalog

theorem performs (catalog : Catalog R) (call : CatalogCall R) :
    catalog.Performs call (catalog.perform call).1 (catalog.perform call).2 := by
  cases call with
  | register node =>
      rw [perform]
      obtain ⟨fault, refused⟩ | accepted := catalog.register_refused_or_added node
      · rw [refused]
        exact .refused node fault
      · rw [accepted]
        exact .registered node accepted
  | build =>
      rw [perform, Catalog.build]
      cases kept : catalog.built with
      | some shared => exact .kept shared kept
      | none =>
          cases fresh : catalog.freshSchema with
          | error fault => exact .failed fault kept
          | ok schema => exact .made schema kept fresh

namespace Performs

variable {catalog next : Catalog R} {call : CatalogCall R} {event : CatalogEvent R}

theorem bare_eq (performs : catalog.Performs call event next) :
    next.bare = event.introduced?.toList.foldl add catalog.bare := by
  cases performs <;> rfl

theorem made_le (performs : catalog.Performs call event next) : catalog.made ≤ next.made := by
  cases performs with
  | made _ _ _ => exact Nat.le_succ _
  | _ => exact Nat.le_refl _

theorem reachable (performs : catalog.Performs call event next)
    (reachable : catalog.Reachable) : next.Reachable := by
  cases performs with
  | registered node accepted => simpa only [accepted] using reachable.register node
  | made schema unkept fresh =>
      have after : catalog.schema.2 =
          { catalog with built := some ⟨catalog.made, schema⟩, made := catalog.made + 1 } := by
        simp only [Catalog.schema, Catalog.build, unkept, fresh]
      rw [← after]
      exact reachable.schema
  | _ => exact reachable

theorem kept_of_built {shared : SharedSchema R}
    (performs : catalog.Performs call (.built shared) next) : next.built = some shared := by
  cases performs with
  | kept _ kept => exact kept
  | made _ _ _ => rfl

/-- Only a registration that succeeds drops a kept schema. -/
theorem kept_of_kept {shared : SharedSchema R} (performs : catalog.Performs call event next)
    (kept : catalog.built = some shared) (nothingNew : event.introduced? = none) :
    next.built = some shared := by
  cases performs with
  | registered node _ => simp [CatalogEvent.introduced?] at nothingNew
  | made other unkept _ => simp [unkept] at kept
  | _ => exact kept

/-- A kept schema was kept before, or it is the one that the call gave. -/
theorem kept_before {shared : SharedSchema R} (performs : catalog.Performs call event next)
    (kept : next.built = some shared) :
    (catalog.built = some shared ∧ event.introduced? = none) ∨ event = .built shared := by
  cases performs with
  | registered node _ => simp [add] at kept
  | made other _ _ => exact .inr (congrArg CatalogEvent.built (Option.some.inj kept))
  | _ => exact .inl ⟨kept, rfl⟩

end Performs

theorem Reachable.run {catalog : Catalog R} (reachable : catalog.Reachable)
    (calls : List (CatalogCall R)) : (catalog.run calls).2.Reachable := by
  induction calls generalizing catalog with
  | nil => exact reachable
  | cons call rest ih => exact ih ((catalog.performs call).reachable reachable)

/-- Apart from builds, a run leads where the registrations that succeeded lead. -/
theorem bare_run (catalog : Catalog R) (calls : List (CatalogCall R)) :
    (catalog.run calls).2.bare = (introduced (catalog.run calls).1).foldl add catalog.bare := by
  induction calls generalizing catalog with
  | nil => rfl
  | cons call rest ih =>
      rw [run, ih, introduced_cons, List.foldl_append, (catalog.performs call).bare_eq]

theorem made_le_run (catalog : Catalog R) (calls : List (CatalogCall R)) :
    catalog.made ≤ (catalog.run calls).2.made := by
  induction calls generalizing catalog with
  | nil => exact Nat.le_refl _
  | cons call rest ih => exact Nat.le_trans (catalog.performs call).made_le (ih _)

theorem kept_run_of_kept {catalog : Catalog R} {shared : SharedSchema R}
    (kept : catalog.built = some shared) {calls : List (CatalogCall R)}
    (nothingNew : introduced (catalog.run calls).1 = []) :
    (catalog.run calls).2.built = some shared := by
  induction calls generalizing catalog with
  | nil => exact kept
  | cons call rest ih =>
      rw [run, introduced_cons, List.append_eq_nil_iff, Option.toList_eq_nil_iff] at nothingNew
      exact ih ((catalog.performs call).kept_of_kept kept nothingNew.1) nothingNew.2

/-- A run is cut at any of its events into the calls before, the call and those after. -/
theorem run_split {catalog last : Catalog R} {calls : List (CatalogCall R)}
    {earlier later : List (CatalogEvent R)} {event : CatalogEvent R}
    (ran : catalog.run calls = (earlier ++ event :: later, last)) :
    ∃ first call rest middle next, catalog.run first = (earlier, middle) ∧
      middle.Performs call event next ∧ next.run rest = (later, last) := by
  induction earlier generalizing catalog calls with
  | nil =>
      cases calls with
      | nil => simp [run] at ran
      | cons call rest =>
          simp only [run, List.nil_append, Prod.mk.injEq, List.cons.injEq] at ran
          obtain ⟨⟨rfl, rfl⟩, rfl⟩ := ran
          exact ⟨[], call, rest, catalog, _, rfl, catalog.performs call, rfl⟩
  | cons head earlier ih =>
      cases calls with
      | nil => simp [run] at ran
      | cons call rest =>
          simp only [run, List.cons_append, Prod.mk.injEq, List.cons.injEq] at ran
          obtain ⟨⟨rfl, events⟩, rfl⟩ := ran
          obtain ⟨first, cut, after, middle, next, before, performs, remaining⟩ :=
            ih (Prod.ext events rfl)
          refine ⟨call :: first, cut, after, middle, next, ?_, performs, remaining⟩
          simp only [run, before]

/-- What is kept after a run is a schema that was kept from the start, or one that a build
of the run gave, with no registration since. -/
theorem kept_run {catalog : Catalog R} {shared : SharedSchema R} {calls : List (CatalogCall R)}
    (kept : (catalog.run calls).2.built = some shared) :
    (catalog.built = some shared ∧ introduced (catalog.run calls).1 = []) ∨
      ∃ earlier later, (catalog.run calls).1 = earlier ++ .built shared :: later ∧
        introduced later = [] := by
  induction calls generalizing catalog with
  | nil => exact .inl ⟨kept, rfl⟩
  | cons call rest ih =>
      rcases ih kept with ⟨keptNext, nothingNew⟩ | ⟨earlier, later, events, nothingNew⟩
      · rcases (catalog.performs call).kept_before keptNext with ⟨keptBefore, none⟩ | given
        · refine .inl ⟨keptBefore, ?_⟩
          rw [run, introduced_cons, none, nothingNew]
          rfl
        · exact .inr ⟨[], _, by rw [run, given]; rfl, nothingNew⟩
      · exact .inr ⟨_ :: earlier, later, by rw [run, events]; rfl, nothingNew⟩

theorem kept_of_nothing_new {catalog last : Catalog R} {calls : List (CatalogCall R)}
    {earlier later : List (CatalogEvent R)} {shared : SharedSchema R}
    (ran : catalog.run calls = (earlier ++ .built shared :: later, last))
    (nothingNew : introduced later = []) : last.built = some shared := by
  obtain ⟨first, call, rest, middle, next, before, performs, remaining⟩ := run_split ran
  have kept : (next.run rest).2.built = some shared := by
    apply kept_run_of_kept performs.kept_of_built
    rw [remaining]
    exact nothingNew
  rwa [remaining] at kept

theorem perform_build_of_kept {catalog : Catalog R} {shared : SharedSchema R}
    (kept : catalog.built = some shared) :
    catalog.perform .build = (.built shared, catalog) := by
  simp only [perform, Catalog.build, kept, CatalogEvent.ofBuild]

/-- All schemas that builds can still give out were made when a number of others were. -/
structure MadeSince (bound : Nat) (catalog : Catalog R) : Prop where
  kept : ∀ shared, catalog.built = some shared → bound ≤ shared.handle
  next : bound ≤ catalog.made

theorem MadeSince.performs {bound : Nat} {catalog next : Catalog R} {call : CatalogCall R}
    {event : CatalogEvent R} (since : catalog.MadeSince bound)
    (performs : catalog.Performs call event next) :
    next.MadeSince bound ∧ ∀ shared, event = .built shared → bound ≤ shared.handle := by
  have nextMade : bound ≤ next.made := Nat.le_trans since.next performs.made_le
  cases performs with
  | registered node accepted => exact ⟨⟨by simp [add], nextMade⟩, by simp⟩
  | made schema unkept fresh =>
      refine ⟨⟨?_, nextMade⟩, ?_⟩
      · intro shared same
        obtain rfl := Option.some.inj same
        exact since.next
      · intro shared same
        obtain rfl := CatalogEvent.built.inj same
        exact since.next
  | kept shared kept =>
      refine ⟨since, ?_⟩
      intro other same
      obtain rfl := CatalogEvent.built.inj same
      exact since.kept shared kept
  | _ => exact ⟨since, by simp⟩

theorem MadeSince.run {bound : Nat} {catalog : Catalog R} (since : catalog.MadeSince bound)
    (calls : List (CatalogCall R)) : (catalog.run calls).2.MadeSince bound := by
  induction calls generalizing catalog with
  | nil => exact since
  | cons call rest ih => exact ih (since.performs (catalog.performs call)).1

theorem handle_lt_made {catalog next : Catalog R} {call : CatalogCall R}
    {shared : SharedSchema R} (reachable : catalog.Reachable)
    (performs : catalog.Performs call (.built shared) next) : shared.handle < next.made :=
  (performs.reachable reachable).coherent.earlier shared performs.kept_of_built

/-- After a registration that succeeded, no build gives out a schema that was made before. -/
theorem handle_lt_of_new {catalog last : Catalog R} (reachable : catalog.Reachable)
    {calls : List (CatalogCall R)} {earlier later : List (CatalogEvent R)}
    {shared other : SharedSchema R}
    (ran : catalog.run calls = (earlier ++ .built shared :: later, last))
    (new : introduced later ≠ []) (built : (last.perform .build).1 = .built other) :
    shared.handle < other.handle := by
  obtain ⟨first, call, rest, middle, next, before, performs, remaining⟩ := run_split ran
  obtain ⟨node, member⟩ := List.exists_mem_of_ne_nil _ new
  obtain ⟨front, back, rfl⟩ := List.append_of_mem (mem_introduced_iff.mp member)
  obtain ⟨between, _, after, grown, registered, ranFront, performsToo, ranBack⟩ :=
    run_split remaining
  have reachableMiddle : middle.Reachable := by simpa [before] using reachable.run first
  have made : next.made ≤ grown.made := by
    simpa [ranFront] using made_le_run next between
  have since : registered.MadeSince grown.made := by
    cases performsToo with
    | registered _ _ => exact ⟨by simp [add], Nat.le_refl _⟩
  have sinceLast : last.MadeSince grown.made := by simpa [ranBack] using since.run after
  have bound := (sinceLast.performs (last.performs .build)).2 other built
  exact Nat.lt_of_lt_of_le (handle_lt_made reachableMiddle performs) (Nat.le_trans made bound)

/-- A build gives out the very schema of an earlier build exactly if no registration since then
succeeded. -/
theorem built_again_iff {catalog last : Catalog R} (reachable : catalog.Reachable)
    {calls : List (CatalogCall R)} {earlier later : List (CatalogEvent R)}
    {shared : SharedSchema R}
    (ran : catalog.run calls = (earlier ++ .built shared :: later, last)) :
    (∃ other, (last.perform .build).1 = .built other ∧ other.handle = shared.handle) ↔
      introduced later = [] := by
  constructor
  · rintro ⟨other, built, sameHandle⟩
    by_contra new
    have newer := handle_lt_of_new reachable ran new built
    omega
  · intro nothingNew
    rw [perform_build_of_kept (kept_of_nothing_new ran nothingNew)]
    exact ⟨shared, rfl, rfl⟩

theorem node_eq_ok_iff {catalog : Catalog R} (coherent : catalog.Coherent)
    {tag : String} {node : Node R} :
    catalog.node tag = .ok node ↔ node ∈ catalog.nodes ∧ node.nodeType = tag := by
  rw [← NodeIndex.Lists.bind_getElem?_eq_some_iff coherent.byType, Catalog.node]
  cases (catalog.list.byType.position? tag).bind fun index => catalog.nodes[index]? <;> simp

theorem node_eq_error_iff {catalog : Catalog R} (coherent : catalog.Coherent) {tag : String} :
    catalog.node tag = .error (.unsupportedNodeType tag) ↔
      ∀ node ∈ catalog.nodes, node.nodeType ≠ tag := by
  have found := fun node => @node_eq_ok_iff R catalog coherent tag node
  constructor
  · intro missing node member carries
    simp [(found node).mpr ⟨member, carries⟩] at missing
  · intro absent
    have missing : ((catalog.list.byType.position? tag).bind fun index => catalog.nodes[index]?) =
        none := by
      rw [Option.eq_none_iff_forall_ne_some]
      intro node same
      obtain ⟨member, carries⟩ :=
        (NodeIndex.Lists.bind_getElem?_eq_some_iff coherent.byType).mp same
      exact absent node member carries
    rw [Catalog.node, missing]

/-- A catalog that agrees with what happened to it. -/
structure InStep (arguments : ArgumentRegistry) (events : List (CatalogEvent R))
    (catalog : Catalog R) : Prop where
  /-- Apart from builds, the catalog is the one to which the successful registrations lead. -/
  bare : catalog.bare = ofNodes (introduced events) arguments
  nodes : catalog.nodes = introduced events
  typesDistinct : catalog.nodeTypes.Nodup
  namesDistinct : (catalog.nodes.map Node.name).Nodup
  /-- Each index finds exactly the nodes of the list, at the places where they stand. -/
  byType : catalog.list.byType.Lists catalog.nodeTypes
  byName : catalog.byName.Lists (catalog.nodes.map Node.name)
  nodeTypes : catalog.nodeTypes = (introduced events).map Node.nodeType
  node : ∀ tag node, catalog.node tag = .ok node ↔
    .registered node ∈ events ∧ node.nodeType = tag
  noNode : ∀ tag, catalog.node tag = .error (.unsupportedNodeType tag) ↔
    ∀ node, .registered node ∈ events → node.nodeType ≠ tag
  nodeByName : ∀ name node, catalog.nodeByName? name = some node ↔
    .registered node ∈ events ∧ node.name = name
  /-- A refused registration changes nothing; the type tag is looked at first. -/
  typeTaken : ∀ node, node.nodeType ∈ catalog.nodeTypes →
    catalog.perform (.register node) =
      (.refused node (.duplicateNode node.nodeType), catalog)
  nameTaken : ∀ node, node.nodeType ∉ catalog.nodeTypes →
    node.name ∈ catalog.nodes.map Node.name →
    catalog.perform (.register node) = (.refused node (.duplicateName node.name), catalog)
  accepted : ∀ node, node.nodeType ∉ catalog.nodeTypes →
    node.name ∉ catalog.nodes.map Node.name →
    catalog.perform (.register node) =
      (.registered node,
        { ofNodes (introduced events ++ [node]) arguments with made := catalog.made })
  /-- What is kept is the schema of a build that no successful registration followed. -/
  kept : ∀ shared, catalog.built = some shared ↔
    ∃ earlier later, events = earlier ++ .built shared :: later ∧ introduced later = []
  /-- The schema of an earlier build is given out again, by its handle, exactly if no registration
  since then succeeded, and it is the same schema then. -/
  again : ∀ earlier shared later, events = earlier ++ .built shared :: later →
    ((∃ other, (catalog.perform .build).1 = .built other ∧ other.handle = shared.handle) ↔
      introduced later = []) ∧
    (introduced later = [] → catalog.perform .build = (.built shared, catalog))
  failed : ∀ fault next, catalog.perform .build = (.failed fault, next) → next = catalog
  /-- A build answers what the first build of a new catalog with the same nodes answers. -/
  fresh : catalog.schema.1 = (ofNodes (introduced events) arguments).schema.1

/-- Whatever is called in whatever order, a catalog agrees with its history. -/
theorem run_in_step (arguments : ArgumentRegistry) (calls : List (CatalogCall R)) :
    InStep arguments ((withArguments arguments).run calls).1
      ((withArguments arguments).run calls).2 := by
  have reachable := (Reachable.start (R := R) arguments).run calls
  have bare := bare_run (withArguments arguments) calls
  have keptOnlyIf := fun shared =>
    @kept_run R (withArguments arguments) shared calls
  rcases ran : (withArguments arguments).run calls with ⟨events, catalog⟩
  simp only [ran] at reachable bare keptOnlyIf ⊢
  replace bare : catalog.bare = ofNodes (introduced events) arguments := bare
  have nodes : catalog.nodes = introduced events :=
    (congrArg Catalog.nodes bare).trans (nodes_ofNodes _ _)
  have coherent := reachable.coherent
  have register := coherent.register_eq
  have types : (catalog.nodes.map Node.nodeType).Nodup := coherent.distinct.types
  have names : (catalog.nodes.map Node.name).Nodup := coherent.distinct.names
  refine ⟨bare, nodes, types, names, coherent.byType,
    coherent.byName, congrArg _ nodes, ?_, ?_, ?_, ?_, ?_, ?_, ?_, ?_, ?_, ?_⟩
  · intro tag node
    rw [node_eq_ok_iff coherent, nodes, mem_introduced_iff]
  · intro tag
    simp only [node_eq_error_iff coherent, nodes, mem_introduced_iff]
  · intro name node
    rw [← mem_introduced_iff, ← nodes]
    exact NodeIndex.Lists.bind_getElem?_eq_some_iff coherent.byName
  · intro node sameType
    simp only [perform, register, sameType, if_true]
  · intro node newType sameName
    simp only [perform, register, newType, sameName, if_true, if_false]
  · intro node newType newName
    have grown : ofNodes (introduced events ++ [node]) arguments = catalog.bare.add node := by
      rw [bare, ofNodes, ofNodes, List.foldl_append]
      rfl
    simp only [perform, register, newType, newName, if_false, grown]
    rfl
  · intro shared
    constructor
    · intro kept
      refine (keptOnlyIf shared kept).resolve_left ?_
      rintro ⟨atStart, -⟩
      cases atStart
    · rintro ⟨earlier, later, rfl, nothingNew⟩
      exact kept_of_nothing_new ran nothingNew
  · rintro earlier shared later rfl
    exact ⟨built_again_iff (.start arguments) ran,
      fun nothingNew => perform_build_of_kept (kept_of_nothing_new ran nothingNew)⟩
  · intro fault next failed
    have performed := catalog.performs .build
    rw [failed] at performed
    cases performed
    rfl
  · have rebuilt := reachable_ofNodes arguments (nodes ▸ types) (nodes ▸ names)
    rw [reachable.schema_eq, rebuilt.schema_eq, ← bare]
    rfl

end Catalog

end NodeGraph
