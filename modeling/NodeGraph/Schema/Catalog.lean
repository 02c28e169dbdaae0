import NodeGraph.Schema.Build
import NodeGraph.Schema.Validation

/-!
# Catalogs

A catalog collects nodes with pairwise distinct type tags and names and builds them into a
schema.  It finds a node by its tag and by its name through two indexes of positions.  A
schema that was built is kept and given out again until the next registration that succeeds.
-/

namespace NodeGraph

/-- A schema that builds give out.  The handle tells which build made it, so that a schema
that is given out again can be told from an equal one that was made anew. -/
structure SharedSchema (R : Type) where
  handle : Nat
  schema : Schema R

/-- Registered nodes with the schema last built of them, and the number of schemas that were
made so far. -/
structure Catalog (R : Type) where
  list : NodeList R := {}
  byName : NodeIndex := {}
  built : Option (SharedSchema R) := none
  made : Nat := 0

namespace Catalog

variable {R : Type}

/-- A catalog without nodes whose nodes may take the given kinds of arguments. -/
def withArguments (arguments : ArgumentRegistry) : Catalog R := { list := { arguments } }

/-- A catalog without nodes whose nodes may take the kinds that all catalogs share. -/
def sharing (shared : SharedRegistry) : Catalog R × SharedRegistry :=
  let (arguments, shared) := shared.use
  (withArguments arguments, shared)

/-- The registered nodes in the order of their registration. -/
def nodes (catalog : Catalog R) : List (Node R) := catalog.list.nodes

/-- Put a node at the end, enter it in both indexes, and forget the schema of the others. -/
def add (catalog : Catalog R) (node : Node R) : Catalog R :=
  { catalog with
    list := catalog.list.add node
    byName := catalog.byName.insert node.name catalog.nodes.length
    built := none }

theorem list_nodes (catalog : Catalog R) : catalog.list.nodes = catalog.nodes := rfl

@[simp]
theorem nodes_withArguments (arguments : ArgumentRegistry) :
    (withArguments (R := R) arguments).nodes = [] := rfl

@[simp]
theorem nodes_add (catalog : Catalog R) (node : Node R) :
    (catalog.add node).nodes = catalog.nodes ++ [node] := rfl

@[simp]
theorem arguments_add (catalog : Catalog R) (node : Node R) :
    (catalog.add node).list.arguments = catalog.list.arguments := rfl

/-- Add a node.  A repeated type tag is refused before a repeated name. -/
def register (catalog : Catalog R) (node : Node R) : Except GraphError Unit × Catalog R :=
  if catalog.list.byType.contains node.nodeType then
    (.error (.duplicateNode node.nodeType), catalog)
  else if catalog.byName.contains node.name then
    (.error (.duplicateName node.name), catalog)
  else (.ok (), catalog.add node)

theorem register_refused_or_added (catalog : Catalog R) (node : Node R) :
    (∃ fault, catalog.register node = (.error fault, catalog)) ∨
      catalog.register node = (.ok (), catalog.add node) := by
  unfold register
  split
  · exact .inl ⟨_, rfl⟩
  · split
    · exact .inl ⟨_, rfl⟩
    · exact .inr rfl

/-- Register nodes one after another, up to the first that is refused. -/
def registerAll (catalog : Catalog R) : List (Node R) → Except GraphError Unit × Catalog R
  | [] => (.ok (), catalog)
  | node :: rest =>
      match catalog.register node with
      | (.ok _, next) => next.registerAll rest
      | refused => refused

/-- The catalog that registering some nodes in turn leads to if their tags and names are
distinct. -/
def ofNodes (nodes : List (Node R)) (arguments : ArgumentRegistry) : Catalog R :=
  nodes.foldl add (withArguments arguments)

def node (catalog : Catalog R) (nodeType : String) : Except GraphError (Node R) :=
  match (catalog.list.byType.position? nodeType).bind fun index => catalog.nodes[index]? with
  | some node => .ok node
  | none => .error (.unsupportedNodeType nodeType)

def nodeByName? (catalog : Catalog R) (name : String) : Option (Node R) :=
  (catalog.byName.position? name).bind fun index => catalog.nodes[index]?

/-- The type tags in the order of registration. -/
def nodeTypes (catalog : Catalog R) : List String :=
  catalog.nodes.map fun node => node.nodeType

@[simp]
theorem nodeTypes_add (catalog : Catalog R) (node : Node R) :
    (catalog.add node).nodeTypes = catalog.nodeTypes ++ [node.nodeType] := by
  simp [nodeTypes]

def freshSchema (catalog : Catalog R) : Except GraphError (Schema R) := do
  let schema ← catalog.list.assemble
  let report := schema.report
  if report.isValid then return schema else .error (.schema (.refused report.errors))

/-- Give out the schema that is kept, or else make one and keep it. -/
def build (catalog : Catalog R) : Except GraphError (SharedSchema R) × Catalog R :=
  match catalog.built with
  | some shared => (.ok shared, catalog)
  | none =>
      match catalog.freshSchema with
      | .error fault => (.error fault, catalog)
      | .ok schema =>
          let shared : SharedSchema R := { handle := catalog.made, schema }
          (.ok shared, { catalog with built := some shared, made := catalog.made + 1 })

/-- The schema of the registered nodes, and the catalog that keeps it. -/
def schema (catalog : Catalog R) : Except GraphError (Schema R) × Catalog R :=
  (catalog.build.1.map SharedSchema.schema, catalog.build.2)

end Catalog

end NodeGraph
