import NodeGraph.Schema.Types

/-!
# Building object types

The nodes of a catalog are built depth first into one list of object types.  The object of
a node is allocated before its fields are converted, so that a field that refers back to a
node in progress finds the place that is already given out, and every node is built once.
-/

namespace NodeGraph

/-- How far the build of a node has come. -/
inductive BuildState where
  | unbuilt
  | allocated (id : Nat)
  | complete (id : Nat)
  deriving DecidableEq, Repr, Inhabited

namespace BuildState

/-- The position of the node's object, once it is allocated. -/
def objectId? : BuildState → Option Nat
  | .unbuilt => none
  | .allocated id => some id
  | .complete id => some id

end BuildState

/-- The objects built so far and the states of all nodes. -/
structure Arena (R : Type) where
  states : List BuildState
  objects : List (ObjectType R) := []

/-- The positions of nodes under a text that each of them carries. -/
structure NodeIndex where
  entries : List (String × Nat) := []
  deriving DecidableEq, Repr, Inhabited

namespace NodeIndex

def position? (index : NodeIndex) (text : String) : Option Nat :=
  index.entries.lookup text

def contains (index : NodeIndex) (text : String) : Bool := (index.position? text).isSome

/-- Enter a position under a text.  Of several positions under a text the last one entered
counts. -/
def insert (index : NodeIndex) (text : String) (position : Nat) : NodeIndex :=
  { entries := (text, position) :: index.entries }

end NodeIndex

/-- The nodes of a catalog, an index of their type tags, and the argument kinds they may
take. -/
structure NodeList (R : Type) where
  nodes : List (Node R) := []
  byType : NodeIndex := {}
  arguments : ArgumentRegistry := {}

namespace NodeList

variable {R : Type}

/-- Put a node at the end of the list and enter its position under its tag. -/
def add (list : NodeList R) (node : Node R) : NodeList R :=
  { list with
    nodes := list.nodes ++ [node]
    byType := list.byType.insert node.nodeType list.nodes.length }

def indexOf? (list : NodeList R) (nodeType : String) : Option Nat :=
  list.byType.position? nodeType

/-- The definitions of a node's arguments: each kind once, where it is first named. -/
def argumentConfig (list : NodeList R) (defined : List ArgumentDefinition) :
    List String → Except GraphError (List ArgumentDefinition)
  | [] => .ok defined
  | kind :: rest =>
      if defined.any fun definition => definition.name == kind then
        argumentConfig list defined rest
      else
        match list.arguments.fresh? kind with
        | none => .error (.unknownArgument kind)
        | some fresh => argumentConfig list (defined ++ [⟨kind, fresh.scalarName⟩]) rest

end NodeList

namespace Arena

variable {R : Type}

/-- The arena before anything is built. -/
def start (list : NodeList R) : Arena R :=
  { states := list.nodes.map fun _ => .unbuilt }

/-- The position of a node's object, once it is allocated. -/
def objectId? (arena : Arena R) (index : Nat) : Option Nat :=
  (arena.states.getD index .unbuilt).objectId?

def argumentsOf (arena : Arena R) (index : Nat) : List ArgumentDefinition :=
  match arena.objectId? index with
  | some id => (arena.objects.getD id default).arguments
  | none => []

/-- Allocate the object of a node at the end of the list. -/
def allocate (arena : Arena R) (index : Nat) (node : Node R)
    (arguments : List ArgumentDefinition) : Arena R :=
  { states := arena.states.set index (.allocated arena.objects.length)
    objects := arena.objects ++
      [{ name := Text.pascalCase node.nodeType, nodeType := node.nodeType, arguments }] }

def finish (arena : Arena R) (index id : Nat) (fields : List (SchemaField R)) : Arena R :=
  { states := arena.states.set index (.complete id)
    objects := arena.objects.modify id fun object =>
      { object with fields := fields, complete := true } }

/-- The output type of a field declared with a tag.  Scalar names come first. -/
def fieldOutput (list : NodeList R) (arena : Arena R) (tag : String) :
    Except GraphError OutputType :=
  match ScalarType.ofTag? tag with
  | some scalar => .ok (.scalar scalar)
  | none =>
      match list.indexOf? tag with
      | none => .error (.unsupportedFieldType tag)
      | some index =>
          match arena.objectId? index, list.nodes[index]? with
          | some id, some node => .ok (.forNode id node.isList)
          | _, _ => .error (.unsupportedFieldType tag)

/-- The output of a field with its own choice between a list and a single object. -/
def overrideList (output : OutputType) (asList : Option Bool) : OutputType :=
  match asList, output.objectId? with
  | some isList, some id => .forNode id isList
  | _, _ => output

/-- Convert a field.  A field that refers to a node has that node built first, by
`build`. -/
def convertField (list : NodeList R)
    (build : Nat → Arena R → Except GraphError (Nat × Arena R))
    (field : Field R) (arena : Arena R) : Except GraphError (SchemaField R × Arena R) :=
  match field.fieldType with
  | .scalar scalar =>
      let output : OutputType :=
        if field.asList = some true then .list (.scalar scalar) else .scalar scalar
      .ok ({ name := field.name, output, resolver := field.resolver,
             description := field.description }, arena)
  | .node tag =>
      match list.indexOf? tag with
      | none => .error (.unsupportedFieldType tag)
      | some index => do
          let (_, arena) ← build index arena
          let output ← arena.fieldOutput list tag
          return ({ name := field.name
                    output := overrideList output field.asList
                    nodeType := some tag
                    arguments := arena.argumentsOf index
                    resolver := field.resolver
                    description := field.description }, arena)

def convertFields (list : NodeList R)
    (build : Nat → Arena R → Except GraphError (Nat × Arena R)) :
    List (Field R) → Arena R → Except GraphError (List (SchemaField R) × Arena R)
  | [], arena => .ok ([], arena)
  | field :: rest, arena => do
      let (converted, arena) ← convertField list build field arena
      let (others, arena) ← convertFields list build rest arena
      return (converted :: others, arena)

/-- Build a node unless it is allocated already.  Each nested build has one more node
allocated, so a depth of the number of nodes that are not is enough. -/
def buildNode (list : NodeList R) :
    Nat → Nat → Arena R → Except GraphError (Nat × Arena R)
  | depth, index, arena =>
      match arena.objectId? index, list.nodes[index]? with
      | some id, _ => .ok (id, arena)
      | none, none => .error (.schema (.refused []))
      | none, some node =>
          match depth with
          | 0 => .error (.schema (.refused [.incompleteNode node.nodeType]))
          | depth + 1 => do
              let arguments ← list.argumentConfig [] node.arguments
              let id := arena.objects.length
              let (fields, arena) ←
                convertFields list (buildNode list depth) node.fields
                  (arena.allocate index node arguments)
              return (id, arena.finish index id fields)

end Arena

namespace NodeList

variable {R : Type}

/-- Build the nodes from a position on, with a root field for each. -/
def buildRoots (list : NodeList R) (index : Nat) :
    List (Node R) → Arena R → Except GraphError (List (RootField R) × Arena R)
  | [], arena => .ok ([], arena)
  | node :: rest, arena => do
      let (id, arena) ← Arena.buildNode list list.nodes.length index arena
      let root : RootField R :=
        { name := node.name
          nodeType := node.nodeType
          output := .forNode id node.isList
          arguments := arena.argumentsOf index
          resolver := node.resolver }
      let (others, arena) ← buildRoots list (index + 1) rest arena
      return (root :: others, arena)

/-- The schema of all nodes, before it is checked. -/
def assemble (list : NodeList R) : Except GraphError (Schema R) := do
  let (roots, arena) ← list.buildRoots 0 list.nodes (Arena.start list)
  return { objects := arena.objects, roots, arguments := list.arguments }

end NodeList

end NodeGraph
