import NodeGraph.Schema.Node

/-!
# Built schemas

A built schema holds one object type for each node.  Objects refer to each other by their
position, so two references to one node are equal.
-/

namespace NodeGraph

/-- The type of a field's value: a scalar, the object at a position, or a list. -/
inductive OutputType where
  | scalar (scalar : ScalarType)
  | object (id : Nat)
  | list (item : OutputType)
  deriving DecidableEq, Repr, Inhabited

namespace OutputType

/-- The type of a field that refers to an object. -/
def forNode (id : Nat) (isList : Bool) : OutputType :=
  if isList then .list (.object id) else .object id

def isList : OutputType → Bool
  | .list _ => true
  | _ => false

/-- Whether the type is a scalar, looking through lists. -/
def isScalar : OutputType → Bool
  | .scalar _ => true
  | .object _ => false
  | .list item => item.isScalar

/-- The object that the type points at, looking through lists. -/
def objectId? : OutputType → Option Nat
  | .scalar _ => none
  | .object id => some id
  | .list item => item.objectId?

@[simp]
theorem objectId?_forNode (id : Nat) (isList : Bool) :
    (forNode id isList).objectId? = some id := by
  cases isList <;> rfl

@[simp]
theorem isList_forNode (id : Nat) (asList : Bool) :
    (forNode id asList).isList = asList := by
  cases asList <;> rfl

end OutputType

/-- A field of a built object. -/
structure SchemaField (R : Type) where
  name : String
  output : OutputType
  nodeType : Option String := none
  arguments : List ArgumentDefinition := []
  resolver : Option R := none
  description : Option String := none

/-- The object type of a node.  It is allocated without fields and completed once they
are known. -/
structure ObjectType (R : Type) where
  name : String
  nodeType : String
  fields : List (SchemaField R) := []
  arguments : List ArgumentDefinition := []
  complete : Bool := false

/-- A field of the query root: the collection of a node. -/
structure RootField (R : Type) where
  name : String
  nodeType : String
  output : OutputType
  arguments : List ArgumentDefinition
  resolver : R

/-- A built schema. -/
structure Schema (R : Type) where
  objects : List (ObjectType R)
  roots : List (RootField R)
  arguments : ArgumentRegistry

instance {R : Type} : Inhabited (ObjectType R) :=
  ⟨{ name := "", nodeType := "" }⟩

namespace ObjectType

variable {R : Type}

/-- The first field with a name. -/
def field? (object : ObjectType R) (name : String) : Option (SchemaField R) :=
  object.fields.find? fun field => field.name == name

end ObjectType

namespace Schema

variable {R : Type}

/-- The object at a position; positions come from the schema itself. -/
def object (schema : Schema R) (id : Nat) : ObjectType R := schema.objects.getD id default

/-- The position of the last object from the first on that carries a type tag. -/
def idFrom? (nodeType : String) (first : Nat) : List (ObjectType R) → Option Nat
  | [] => none
  | object :: rest =>
      match idFrom? nodeType (first + 1) rest with
      | some id => some id
      | none => if object.nodeType = nodeType then some first else none

def objectId? (schema : Schema R) (nodeType : String) : Option Nat :=
  idFrom? nodeType 0 schema.objects

/-- The first root field with a name. -/
def root? (schema : Schema R) (name : String) : Option (RootField R) :=
  schema.roots.find? fun root => root.name == name

end Schema

end NodeGraph
