import NodeGraph.Schema.Catalog
import NodeGraph.Proofs.Schema.Assembly

/-!
# Reachable catalogs

A catalog changes by registrations and by builds.  In every catalog that can be reached so,
the nodes have pairwise distinct type tags and names, both indexes agree with the list of
nodes, and a schema that is kept is the one that building the present nodes afresh would give.
Distinct nodes are all registered, in whatever catalog their tags and names are new.
-/

namespace NodeGraph

namespace Catalog

variable {R : Type}

/-- The catalogs that registrations and builds lead to. -/
inductive Reachable : Catalog R → Prop
  | start (arguments : ArgumentRegistry) : Reachable (withArguments arguments)
  | register {catalog : Catalog R} (node : Node R) (reachable : Reachable catalog) :
      Reachable (catalog.register node).2
  | schema {catalog : Catalog R} (reachable : Reachable catalog) : Reachable catalog.schema.2

/-- What holds of a catalog at all times: both indexes find each node at its place, and a schema
that is kept was made of the present nodes by an earlier build. -/
structure Coherent (catalog : Catalog R) : Prop where
  byType : catalog.list.byType.Lists catalog.nodeTypes
  byName : catalog.byName.Lists (catalog.nodes.map Node.name)
  kept : ∀ shared, catalog.built = some shared → catalog.freshSchema = .ok shared.schema
  earlier : ∀ shared, catalog.built = some shared → shared.handle < catalog.made

namespace Coherent

variable {catalog : Catalog R} {node : Node R}

theorem distinct (coherent : catalog.Coherent) : catalog.list.Distinct :=
  ⟨coherent.byName.nodup, coherent.byType⟩

/-- A registration looks at the type tag before the name. -/
theorem register_eq (coherent : catalog.Coherent) (node : Node R) :
    catalog.register node =
      if node.nodeType ∈ catalog.nodeTypes then
        (.error (.duplicateNode node.nodeType), catalog)
      else if node.name ∈ catalog.nodes.map Node.name then
        (.error (.duplicateName node.name), catalog)
      else (.ok (), catalog.add node) := by
  simp only [Catalog.register, coherent.byType.contains_iff, coherent.byName.contains_iff]

theorem register_of_new (coherent : catalog.Coherent)
    (newType : node.nodeType ∉ catalog.nodeTypes)
    (newName : node.name ∉ catalog.nodes.map Node.name) :
    catalog.register node = (.ok (), catalog.add node) := by
  rw [coherent.register_eq, if_neg newType, if_neg newName]

/-- A new node goes into the list and into both indexes. -/
theorem add (coherent : catalog.Coherent) (newType : node.nodeType ∉ catalog.nodeTypes)
    (newName : node.name ∉ catalog.nodes.map Node.name) : (catalog.add node).Coherent := by
  have byName := coherent.byName.insert newName
  rw [List.length_map, ← List.map_singleton, ← List.map_append] at byName
  refine ⟨coherent.distinct.indexed.add newType, byName, ?_, ?_⟩
  all_goals
    intro shared kept
    cases kept

theorem register (coherent : catalog.Coherent) (node : Node R) :
    (catalog.register node).2.Coherent := by
  by_cases sameType : node.nodeType ∈ catalog.nodeTypes
  · rwa [coherent.register_eq, if_pos sameType]
  · by_cases sameName : node.name ∈ catalog.nodes.map Node.name
    · rwa [coherent.register_eq, if_neg sameType, if_pos sameName]
    · rw [coherent.register_of_new sameType sameName]
      exact coherent.add sameType sameName

theorem schema (coherent : catalog.Coherent) : catalog.schema.2.Coherent := by
  unfold Catalog.schema build
  cases kept : catalog.built with
  | some shared => exact coherent
  | none =>
      cases fresh : catalog.freshSchema with
      | error fault => exact coherent
      | ok built =>
          refine ⟨coherent.byType, coherent.byName, ?_, ?_⟩
          · intro shared same
            obtain rfl := Option.some.inj same
            exact fresh
          · intro shared same
            obtain rfl := Option.some.inj same
            exact Nat.lt_succ_self _

end Coherent

/-- A registration and a build keep a catalog coherent, so every run does. -/
theorem Reachable.coherent {catalog : Catalog R} (reachable : catalog.Reachable) :
    catalog.Coherent := by
  induction reachable with
  | start arguments =>
      refine ⟨NodeIndex.lists_nil, NodeIndex.lists_nil, ?_, ?_⟩
      all_goals
        intro shared kept
        simp [withArguments] at kept
  | register node _ ih => exact ih.register node
  | schema _ ih => exact ih.schema

/-- Whether a schema is kept or not, what a reachable catalog answers is what building its
nodes afresh gives. -/
theorem Reachable.schema_eq {catalog : Catalog R} (reachable : catalog.Reachable) :
    catalog.schema.1 = catalog.freshSchema := by
  unfold Catalog.schema build
  cases kept : catalog.built with
  | some shared => exact (reachable.coherent.kept shared kept).symm
  | none => cases catalog.freshSchema <;> rfl

@[simp]
theorem nodes_foldl_add (catalog : Catalog R) (nodes : List (Node R)) :
    (nodes.foldl add catalog).nodes = catalog.nodes ++ nodes := by
  induction nodes generalizing catalog with
  | nil => simp
  | cons node rest ih => simp [ih]

@[simp]
theorem arguments_foldl_add (catalog : Catalog R) (nodes : List (Node R)) :
    (nodes.foldl add catalog).list.arguments = catalog.list.arguments := by
  induction nodes generalizing catalog with
  | nil => rfl
  | cons node rest ih => simp [ih]

@[simp]
theorem nodes_ofNodes (nodes : List (Node R)) (arguments : ArgumentRegistry) :
    (ofNodes nodes arguments).nodes = nodes := by
  simp [ofNodes]

@[simp]
theorem arguments_ofNodes (nodes : List (Node R)) (arguments : ArgumentRegistry) :
    (ofNodes nodes arguments).list.arguments = arguments := by
  rw [ofNodes, arguments_foldl_add]
  rfl

/-- Nodes whose tags and names are new and pairwise distinct are all registered, in order. -/
theorem Reachable.registerAll_eq {catalog : Catalog R} (reachable : catalog.Reachable)
    {nodes : List (Node R)} (types : ((catalog.nodes ++ nodes).map Node.nodeType).Nodup)
    (names : ((catalog.nodes ++ nodes).map Node.name).Nodup) :
    catalog.registerAll nodes = (.ok (), nodes.foldl add catalog) ∧
      (nodes.foldl add catalog).Reachable := by
  induction nodes generalizing catalog with
  | nil => exact ⟨rfl, reachable⟩
  | cons node rest ih =>
      have newType : node.nodeType ∉ catalog.nodeTypes := by
        rw [List.map_append, List.nodup_append] at types
        exact fun member => types.2.2 _ member _ (by simp) rfl
      have newName : node.name ∉ catalog.nodes.map Node.name := by
        rw [List.map_append, List.nodup_append] at names
        exact fun member => names.2.2 _ member _ (by simp) rfl
      have accepted := reachable.coherent.register_of_new newType newName
      have reachableNext := reachable.register node
      have listed : (catalog.add node).nodes ++ rest = catalog.nodes ++ node :: rest := by
        simp
      rw [accepted] at reachableNext
      rw [registerAll, accepted]
      exact ih reachableNext (listed ▸ types) (listed ▸ names)

/-- Distinct nodes are registered one after another. -/
theorem registerAll_eq_ofNodes {nodes : List (Node R)} (arguments : ArgumentRegistry)
    (types : (nodes.map Node.nodeType).Nodup) (names : (nodes.map Node.name).Nodup) :
    registerAll (withArguments arguments) nodes = (.ok (), ofNodes nodes arguments) :=
  ((Reachable.start arguments).registerAll_eq types names).1

theorem reachable_ofNodes {nodes : List (Node R)} (arguments : ArgumentRegistry)
    (types : (nodes.map Node.nodeType).Nodup) (names : (nodes.map Node.name).Nodup) :
    (ofNodes nodes arguments).Reachable :=
  ((Reachable.start arguments).registerAll_eq types names).2

end Catalog

end NodeGraph
